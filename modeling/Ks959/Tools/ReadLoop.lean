import Ks959.Tools.ReadOnce

/-!
# The interrupt read loops (`ks959-monitor.c`, `ks959-control-test.c`)

`main` calls `ks959_read_once` until a call fails or the iterations are used up; a read that a call
has left behind may still complete afterwards. The loop is a machine over calls (`loopStep`).

The packets that have completed a read are those reported and the one that is on its way
(`Read.inFlight`). A step keeps this account (`Balance`), unless a packet is dropped: it arrives
when the wait for its read is already over, or the wait fails although it has arrived (`Kept`).
`packets_reported_iff` says that these are the only ways to lose a packet, in any run.
-/

namespace Ks959.Tools

/-- Where `main` stands: at the head of its loop, in a call, behind the loop. -/
inductive Phase where
  | head
  | calling
  | stopped
deriving DecidableEq, Repr

/-- The loop of `main`, with the call under way. -/
structure Loop where
  iteration : Nat
  phase : Phase
  read : Read
deriving DecidableEq, Repr

/-- An action of the loop: the test at its head, a step of the call, the return of the call, or an
    event of the device between and after the calls. -/
inductive LoopAction where
  | test
  | step (l : Action)
  | back
  | arrive (packet : List UInt8)
  | fault
deriving DecidableEq, Repr

/-- The call has returned. -/
def Pc.isReturned : Pc → Bool
  | .returned _ => true
  | _ => false

/-- One step of the loop. -/
def loopStep (c : ReadLoop) (s : Loop) (l : LoopAction) : Option Loop :=
  match s.phase, l with
  | .head, .test =>
    if s.iteration < c.iterations then some { s with phase := .calling, read := s.read.begin }
    else some { s with phase := .stopped }
  | .calling, .step l => (readStep c s.read l).map fun read => { s with read := read }
  | .calling, .back =>
    match s.read.pc with
    | .returned true => some { s with phase := .head, iteration := s.iteration + 1 }
    | .returned false => some { s with phase := .stopped }
    | _ => none
  | _, .arrive packet =>
    if s.read.pc.isReturned ∧ s.read.transfer = .pending ∧ packet.length ≤ c.readSize then
      some { s with read := s.read.complete packet }
    else none
  | _, .fault =>
    if s.read.pc.isReturned ∧ s.read.transfer = .pending then
      some { s with read := { s.read with transfer := .failed } }
    else none
  | _, _ => none

/-- `main` before its loop. -/
def Loop.start : Loop := ⟨0, .head, ⟨.returned true, .absent, .idle, [], 0, [], []⟩⟩

/-- The packet that has completed the read of the call and is still to be reported. -/
def Read.inFlight (s : Read) : List (List UInt8) :=
  match s.pc, s.transfer with
  | .wait, .completed n => [s.buffer.take n]
  | .result _, .completed n => [s.buffer.take n]
  | .report, _ => [s.buffer.take s.bytesRead]
  | _, _ => []

/-- Every packet that has completed a read is reported, once and in order, or on its way. -/
def Read.Reported (s : Read) : Prop := s.delivered = s.dumped ++ s.inFlight

/-- `WinUsb_GetOverlappedResult` hands out the result of a completed read, and no other. -/
def Honest (s : Read) : Action → Prop
  | .getResult (.done n) => s.transfer = .completed n
  | .getResult _ => ∀ n, s.transfer ≠ .completed n
  | _ => True

/-- No packet is dropped: a packet arrives while the wait lasts, and the wait does not fail for a
    read that has completed. -/
def Kept (s : Read) : Action → Prop
  | .arrive _ => s.pc = .wait
  | .waitFailed => ∀ n, s.transfer ≠ .completed n
  | _ => True

/-- A packet has completed the read. -/
def Transfer.isCompleted : Transfer → Bool
  | completed _ => true
  | _ => false

/-- A transfer that has not completed has no length. -/
lemma isCompleted_eq_false_iff {t : Transfer} :
    t.isCompleted = false ↔ ∀ n, t ≠ .completed n := by
  cases t with
  | completed n => exact iff_of_false nofun fun other => other n rfl
  | idle | pending | aborted | failed => exact iff_of_true rfl nofun

instance (t : Transfer) : Decidable (∀ n, t ≠ .completed n) :=
  decidable_of_iff (t.isCompleted = false) isCompleted_eq_false_iff

instance (s : Read) (l : Action) : Decidable (Honest s l) :=
  match l with
  | .getResult (.done n) => inferInstanceAs (Decidable (s.transfer = .completed n))
  | .getResult .aborted | .getResult .error =>
    inferInstanceAs (Decidable (∀ n, s.transfer ≠ .completed n))
  | .guard | .createEvent _ | .readPipe _ | .waitObject | .waitTimeout | .waitFailed | .abortPipe
  | .dump | .closeHandle | .arrive _ | .fault => inferInstanceAs (Decidable True)

instance (s : Read) (l : Action) : Decidable (Kept s l) :=
  match l with
  | .arrive _ => inferInstanceAs (Decidable (s.pc = .wait))
  | .waitFailed => inferInstanceAs (Decidable (∀ n, s.transfer ≠ .completed n))
  | .guard | .createEvent _ | .readPipe _ | .waitObject | .waitTimeout | .getResult _ | .abortPipe
  | .dump | .closeHandle | .fault => inferInstanceAs (Decidable True)

/-- The steps that `loopStep` takes. -/
inductive LoopMoves (c : ReadLoop) (s : Loop) : LoopAction → Loop → Prop where
  | call (phase : s.phase = .head) (more : s.iteration < c.iterations) :
      LoopMoves c s .test { s with phase := .calling, read := s.read.begin }
  | leave (phase : s.phase = .head) (used : ¬ s.iteration < c.iterations) :
      LoopMoves c s .test { s with phase := .stopped }
  | step (l : Action) (read : Read) (phase : s.phase = .calling) (m : Moves c s.read l read) :
      LoopMoves c s (.step l) { s with read := read }
  | next (phase : s.phase = .calling) (pc : s.read.pc = .returned true) :
      LoopMoves c s .back { s with phase := .head, iteration := s.iteration + 1 }
  | stop (phase : s.phase = .calling) (pc : s.read.pc = .returned false) :
      LoopMoves c s .back { s with phase := .stopped }
  | arrived (packet : List UInt8) (ret : Bool) (pc : s.read.pc = .returned ret)
      (pending : s.read.transfer = .pending) (fits : packet.length ≤ c.readSize) :
      LoopMoves c s (.arrive packet) { s with read := s.read.complete packet }
  | faulted (ret : Bool) (pc : s.read.pc = .returned ret) (pending : s.read.transfer = .pending) :
      LoopMoves c s .fault { s with read := { s.read with transfer := .failed } }

/-- A call that has returned has a return value. -/
lemma isReturned_inv {pc : Pc} (returned : pc.isReturned) : ∃ ret, pc = .returned ret := by
  cases pc with
  | returned ret => exact ⟨ret, rfl⟩
  | _ => cases returned

/-- The loop takes only these steps. -/
lemma loopStep_moves {c : ReadLoop} {s s' : Loop} {l : LoopAction}
    (step : loopStep c s l = some s') : LoopMoves c s l s' := by
  unfold loopStep at step
  split at step
  case h_1 phase =>
    split_ifs at step with more
    · cases step
      exact .call phase more
    · cases step
      exact .leave phase more
  case h_2 l phase =>
    obtain ⟨read, st, rfl⟩ := Option.map_eq_some_iff.mp step
    exact .step l read phase (readStep_moves st)
  case h_3 phase =>
    split at step
    case h_1 pc => cases step; exact .next phase pc
    case h_2 pc => cases step; exact .stop phase pc
    case h_3 => cases step
  case h_4 packet =>
    split_ifs at step with enabled
    obtain ⟨returned, pending, fits⟩ := enabled
    obtain ⟨ret, pc⟩ := isReturned_inv returned
    cases step
    exact .arrived packet ret pc pending fits
  case h_5 =>
    split_ifs at step with enabled
    obtain ⟨ret, pc⟩ := isReturned_inv enabled.1
    cases step
    exact .faulted ret pc enabled.2
  case h_6 => cases step

/-- The account of a step. Either it carries every packet on, or it drops one. -/
inductive Balance (s s' : Read) (kept : Prop) : Prop where
  | carried (packets : List (List UInt8)) (k : kept)
      (delivered : s'.delivered = s.delivered ++ packets)
      (reported : s'.dumped ++ s'.inFlight = s.dumped ++ s.inFlight ++ packets)
  | dropped (k : ¬ kept)
      (missing : (s.dumped ++ s.inFlight).length + s'.delivered.length
        = (s'.dumped ++ s'.inFlight).length + s.delivered.length + 1)

/-- A step that leaves the packets alone. -/
lemma Balance.still {s s' : Read} {kept : Prop} (k : kept) (delivered : s'.delivered = s.delivered)
    (dumped : s'.dumped = s.dumped) (inFlight : s'.inFlight = s.inFlight) : Balance s s' kept :=
  .carried [] k (by rw [delivered, List.append_nil]) (by rw [dumped, inFlight, List.append_nil])

/-- A packet completes the read while the call is at a place from which it will be reported. -/
lemma Balance.completed {s s' : Read} {kept : Prop} {packet : List UInt8} (k : kept)
    (delivered : s'.delivered = s.delivered ++ [packet]) (dumped : s'.dumped = s.dumped)
    (before : s.inFlight = []) (after : s'.inFlight = [packet]) : Balance s s' kept :=
  .carried [packet] k delivered (by rw [dumped, before, after, List.append_nil])

/-- A packet completes a read that nobody will look at. -/
lemma Balance.unseen {s s' : Read} {kept : Prop} {packet : List UInt8} (k : ¬ kept)
    (delivered : s'.delivered = s.delivered ++ [packet]) (dumped : s'.dumped = s.dumped)
    (inFlight : s'.inFlight = s.inFlight) : Balance s s' kept := by
  refine .dropped k ?_
  simp only [delivered, dumped, inFlight, List.length_append, List.length_singleton]
  omega

/-- While the result is fetched and reported, the read is over. -/
def Read.Wf (s : Read) : Prop :=
  match s.pc with
  | .result _ | .report => s.transfer ≠ .pending
  | _ => True

/-- A read that has ended is over wherever the call stands. -/
lemma wf_of_ended {s : Read} (ended : s.transfer ≠ .pending) : s.Wf := by
  unfold Read.Wf
  cases s.pc with
  | result | report => exact ended
  | enter | create | submit | wait | abort | close | returned => exact trivial

/-- A step of the call keeps its state in order. -/
lemma Read.Wf.step {c : ReadLoop} {s s' : Read} {l : Action} (wf : s.Wf) (m : Moves c s l s') :
    s'.Wf := by
  cases m with
  | arrived packet => exact wf_of_ended Transfer.noConfusion
  | faulted => exact wf_of_ended Transfer.noConfusion
  | immediate packet => exact Transfer.noConfusion
  | signalled pc ended => exact ended
  | fetched n immediate pc =>
    rw [Read.Wf, pc] at wf
    exact wf
  | usable | unusable | created | uncreated | submitted | refused | timeout | waitFailed | cancelled
  | late | fetchAborted | fetchFailed | dumped | eventClosed => exact trivial

/-- The buffer starts with the packet that completes the read. -/
lemma take_complete (s : Read) (packet : List UInt8) :
    (s.complete packet).buffer.take packet.length = packet :=
  List.take_left

/-- The account of a step of a call. -/
lemma Moves.balance {c : ReadLoop} {s s' : Read} {l : Action} (m : Moves c s l s') (wf : s.Wf)
    (honest : Honest s l) : Balance s s' (Kept s l) := by
  cases m with
  | immediate packet pc =>
    refine .completed trivial rfl rfl (by simp [Read.inFlight, pc]) ?_
    exact congrArg (fun p => [p]) (take_complete s packet)
  | arrived packet running pending =>
    cases place : s.pc with
    | wait =>
      refine .completed place rfl rfl (by simp [Read.inFlight, place, pending]) ?_
      simp only [Read.inFlight, Read.complete, place]
      exact congrArg (fun p => [p]) (take_complete s packet)
    | result | report =>
      unfold Read.Wf at wf
      rw [place] at wf
      exact absurd pending wf
    | returned ret => exact absurd place (running ret)
    | enter | create | submit | abort | close =>
      refine .unseen (by simp [Kept, place]) rfl rfl ?_
      simp [Read.inFlight, Read.complete, place]
  | waitFailed pc =>
    cases ended : s.transfer with
    | completed n =>
      refine .dropped (fun kept => kept n ended) ?_
      simp [Read.inFlight, pc, ended]
      omega
    | idle | pending | aborted | failed =>
      exact .still (by simp [Kept, ended]) rfl rfl (by simp [Read.inFlight, pc, ended])
  | fetched n immediate pc =>
    have completed : s.transfer = .completed n := honest
    exact .still trivial rfl rfl (by simp [Read.inFlight, pc, completed])
  | fetchAborted immediate pc | fetchFailed immediate pc =>
    have nothing : s.inFlight = [] := by
      cases ended : s.transfer with
      | completed n => exact absurd ended (honest n)
      | idle | pending | aborted | failed => simp [Read.inFlight, pc, ended]
    exact .still trivial rfl rfl nothing.symm
  | dumped pc =>
    refine .carried [] trivial (List.append_nil _).symm ?_
    simp [Read.inFlight, pc]
  | signalled pc =>
    exact .still trivial rfl rfl (by cases t : s.transfer <;> simp [Read.inFlight, pc, t])
  | timeout pc pending =>
    exact .still trivial rfl rfl (by simp [Read.inFlight, pc, pending])
  | faulted running pending =>
    exact .still trivial rfl rfl (by cases p : s.pc <;> simp [Read.inFlight, p, pending])
  | usable pc | unusable pc | created pc | uncreated pc | submitted pc | refused pc
  | cancelled pc | late pc | eventClosed ret pc =>
    exact .still trivial rfl rfl (by simp [Read.inFlight, pc])

/-- A packet has been dropped. -/
def Read.Behind (s : Read) : Prop := (s.dumped ++ s.inFlight).length < s.delivered.length

/-- Where all packets are reported none is dropped. -/
lemma Read.Reported.not_behind {s : Read} (reported : s.Reported) : ¬ s.Behind := by
  rw [Read.Behind, ← reported]
  exact lt_irrefl _

/-- A step that keeps the balance leaves all packets reported. -/
lemma Balance.reported {s s' : Read} {kept : Prop} (b : Balance s s' kept) (k : kept)
    (reported : s.Reported) : s'.Reported := by
  cases b with
  | carried packets _ delivered same =>
    rw [Read.Reported, delivered, same, ← reported]
  | dropped nk => exact absurd k nk

/-- A step that does not drops a packet. -/
lemma Balance.drops {s s' : Read} {kept : Prop} (b : Balance s s' kept) (nk : ¬ kept)
    (reported : s.Reported) : s'.Behind := by
  cases b with
  | carried _ k => exact absurd k nk
  | dropped _ missing =>
    rw [Read.Behind]
    rw [← reported] at missing
    omega

/-- A packet that has been dropped stays so. -/
lemma Balance.behind {s s' : Read} {kept : Prop} (b : Balance s s' kept) (behind : s.Behind) :
    s'.Behind := by
  rw [Read.Behind] at behind ⊢
  cases b with
  | carried packets _ delivered same =>
    simp only [delivered, same, List.length_append] at behind ⊢
    omega
  | dropped _ missing => omega

/-- `Kept` for the loop: a packet that arrives between or after the calls is not. -/
def LoopKept (s : Loop) : LoopAction → Prop
  | .step l => Kept s.read l
  | .arrive _ => False
  | _ => True

/-- `Honest` for the loop. -/
def LoopHonest (s : Loop) : LoopAction → Prop
  | .step l => Honest s.read l
  | _ => True

instance (s : Loop) (l : LoopAction) : Decidable (LoopKept s l) :=
  match l with
  | .step l => inferInstanceAs (Decidable (Kept s.read l))
  | .arrive _ => inferInstanceAs (Decidable False)
  | .test | .back | .fault => inferInstanceAs (Decidable True)

instance (s : Loop) (l : LoopAction) : Decidable (LoopHonest s l) :=
  match l with
  | .step l => inferInstanceAs (Decidable (Honest s.read l))
  | .test | .back | .arrive _ | .fault => inferInstanceAs (Decidable True)

/-- Outside of the calls the last call has returned. -/
structure Loop.Wf (s : Loop) : Prop where
  read : s.read.Wf
  idle : s.phase ≠ .calling → ∃ ret, s.read.pc = .returned ret

variable {c : ReadLoop} {s s' : Loop} {l : LoopAction}

/-- A call that has returned is in order. -/
lemma wf_of_returned {r : Read} (ret : Bool) (pc : r.pc = .returned ret) : r.Wf := by
  rw [Read.Wf, pc]
  trivial

/-- A call that has returned has no packet on its way. -/
lemma inFlight_returned {r : Read} (ret : Bool) (pc : r.pc = .returned ret) : r.inFlight = [] := by
  simp [Read.inFlight, pc]

/-- A step of the loop keeps its state in order. -/
lemma Loop.Wf.step (wf : s.Wf) (m : LoopMoves c s l s') : s'.Wf := by
  cases m with
  | call => exact ⟨trivial, fun outside => absurd rfl outside⟩
  | leave phase => exact ⟨wf.read, fun _ => wf.idle (by rw [phase]; nofun)⟩
  | step l read phase m => exact ⟨wf.read.step m, fun outside => absurd phase outside⟩
  | next phase pc => exact ⟨wf.read, fun _ => ⟨_, pc⟩⟩
  | stop phase pc => exact ⟨wf.read, fun _ => ⟨_, pc⟩⟩
  | arrived packet ret pc => exact ⟨wf_of_returned ret pc, fun _ => ⟨_, pc⟩⟩
  | faulted ret pc => exact ⟨wf_of_returned ret pc, fun _ => ⟨_, pc⟩⟩

/-- The account of a step of the loop. -/
lemma LoopMoves.balance (m : LoopMoves c s l s') (wf : s.Wf) (honest : LoopHonest s l) :
    Balance s.read s'.read (LoopKept s l) := by
  cases m with
  | call phase =>
    obtain ⟨ret, pc⟩ := wf.idle (by rw [phase]; nofun)
    exact .still trivial rfl rfl (inFlight_returned ret pc).symm
  | leave | next | stop => exact .still trivial rfl rfl rfl
  | step l read phase m => exact m.balance wf.read honest
  | arrived packet ret pc =>
    have after : (s.read.complete packet).inFlight = [] := inFlight_returned ret pc
    exact .unseen id rfl rfl (after.trans (inFlight_returned ret pc).symm)
  | faulted ret pc =>
    have after : ({ s.read with transfer := .failed } : Read).inFlight = [] :=
      inFlight_returned ret pc
    exact .still trivial rfl rfl (after.trans (inFlight_returned ret pc).symm)

/-- One packet at most is on its way. -/
lemma inFlight_length_le (r : Read) : r.inFlight.length ≤ 1 := by
  unfold Read.inFlight
  split <;> simp

/-- The loop starts in order. -/
lemma start_wf : Loop.start.Wf := ⟨trivial, fun _ => ⟨_, rfl⟩⟩

/-- In every run of a read loop over an honest WinUSB, each packet that has completed a read is
    reported, once and in order, or on its way, exactly when no step of the run drops one. Once the
    loop is over nothing is on its way. -/
theorem packets_reported_iff (c : ReadLoop) (s : Loop) (ls : List LoopAction)
    (run : Machine.run (loopStep c) .start ls = some s)
    (honest : Machine.Along (loopStep c) LoopHonest .start ls) :
    (s.read.Reported ↔ Machine.Along (loopStep c) LoopKept .start ls) ∧
      s.read.inFlight.length ≤ 1 ∧ (s.phase = .stopped → s.read.inFlight = []) := by
  have wf : s.Wf :=
    Machine.run_invariant (fun _ s => s.Wf) start_wf
      (fun _ _ _ _ wf step => wf.step (loopStep_moves step)) run
  have kept : s.Wf ∧ s.read.Reported ↔ Machine.Along (loopStep c) LoopKept .start ls := by
    have apart (s : Loop) (good : s.Wf ∧ s.read.Reported) : ¬ (s.Wf ∧ s.read.Behind) :=
      fun bad => good.2.not_behind bad.2
    refine Machine.good_iff apart ?_ ?_ ?_ ⟨start_wf, rfl⟩ honest run
    · intro s l s' q k step good
      have m := loopStep_moves step
      exact ⟨good.1.step m, (m.balance good.1 q).reported k good.2⟩
    · intro s l s' q drop step good
      have m := loopStep_moves step
      exact ⟨good.1.step m, (m.balance good.1 q).drops drop good.2⟩
    · intro s l s' q step bad
      have m := loopStep_moves step
      exact ⟨bad.1.step m, (m.balance bad.1 q).behind bad.2⟩
  refine ⟨(and_iff_right wf).symm.trans kept, inFlight_length_le s.read, fun stopped => ?_⟩
  obtain ⟨ret, pc⟩ := wf.idle (by rw [stopped]; nofun)
  exact inFlight_returned ret pc

/-- A run in which a packet arrives in the wait. -/
def promptRun : List LoopAction :=
  [.test, .step .guard, .step (.createEvent true), .step (.readPipe .pending),
    .step (.arrive [1, 2]), .step .waitObject, .step (.getResult (.done 2)), .step .dump,
    .step .closeHandle, .back]

/-- A run in which a packet completes the read between the timeout of its wait and the abort. -/
def lateRun : List LoopAction :=
  [.test, .step .guard, .step (.createEvent true), .step (.readPipe .pending), .step .waitTimeout,
    .step (.arrive [1, 2]), .step .abortPipe, .step .closeHandle, .back, .test, .step .guard,
    .step (.createEvent false), .back]

/-- Where the first of the two runs ends. -/
def promptEnd : Loop :=
  (Machine.run (loopStep (monitorReads (some dongle))) .start promptRun).get (by decide)

/-- A packet that arrives in the wait is reported. -/
theorem prompt_packet_reported :
    ∃ s, Machine.run (loopStep (monitorReads (some dongle))) .start promptRun = some s ∧
      s.read.dumped = [[1, 2]] ∧ s.read.Reported := by
  have run : Machine.run (loopStep (monitorReads (some dongle))) .start promptRun
      = some promptEnd := (Option.some_get _).symm
  refine ⟨promptEnd, run, by decide, ?_⟩
  have counted := packets_reported_iff (monitorReads (some dongle)) promptEnd promptRun run
    (by decide)
  exact counted.1.mpr (by decide)

/-- A packet completes the read between the timeout of its wait and the abort: the loop goes on,
    and ends, without having reported it. -/
theorem late_packet_lost :
    ∃ s, Machine.run (loopStep (monitorReads (some dongle))) .start lateRun = some s ∧
      Machine.Along (loopStep (monitorReads (some dongle))) LoopHonest .start lateRun ∧
      s.phase = .stopped ∧ s.read.delivered = [[1, 2]] ∧ s.read.dumped = [] ∧
      ¬ s.read.Reported := by
  refine ⟨_, (Option.some_get (by decide)).symm, by decide, by decide, by decide, by decide, ?_⟩
  rw [Read.Reported]
  decide

end Ks959.Tools
