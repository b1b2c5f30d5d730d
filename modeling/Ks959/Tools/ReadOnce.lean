import Ks959.Lib.Machine

/-!
# One interrupt read of the WinUSB tools (`ks959-monitor.c`, `ks959-control-test.c`)

`ks959_read_once` submits an overlapped read, waits for its event and fetches the result, while the
device may complete the read at any moment. It is a machine: `readStep` takes an action of the
program with what the system answers, or an event of the device, and is `none` for an action that
is not the next one. `Moves` is its inversion, one case for each way a step can go.

What WinUSB does is built into the steps: a read is pending from `ERROR_IO_PENDING` until it
completes or its pipe is aborted, an abort leaves a completed read alone, and the event is signalled
by completion only. What `WinUsb_GetOverlappedResult` answers is left open.
-/

namespace Ks959.Tools

/-- `Ks959Device`, with the members that a read looks at. -/
structure PipeDevice where
  winUsbHandle : Option Nat
  interruptInPipe : UInt8
  maxPacketSize : UInt16

/-- A read loop: the device, the buffer and how much of it a read asks for, the number of reads. -/
structure ReadLoop where
  dev : Option PipeDevice
  bufferSize : Nat
  readSize : Nat
  iterations : Nat

/-- The guard at the head of `ks959_read_once`. -/
def usable (dev : Option PipeDevice) : Bool :=
  match dev with
  | none => false
  | some d => d.winUsbHandle.isSome && d.interruptInPipe != 0

/-- The loop of `ks959-monitor.c`. -/
def monitorReads (dev : Option PipeDevice) : ReadLoop where
  dev := dev
  bufferSize := 8
  readSize := 8
  iterations := 50

/-- `KS959_MAX_BUFFER`. -/
def maxBuffer : Nat := 256

/-- The loop of `ks959-control-test.c`: a read takes a packet of the endpoint, if that has a size
    which fits the buffer. -/
def controlTestReads (dev : Option PipeDevice) : ReadLoop where
  dev := dev
  bufferSize := maxBuffer
  readSize :=
    match dev with
    | none => 8
    | some d =>
      if d.maxPacketSize.toNat = 0 ∨ maxBuffer < d.maxPacketSize.toNat then 8
      else d.maxPacketSize.toNat
  iterations := 10

/-- Where `ks959_read_once` stands: before its guard, the creation of the event, the submission, in
    the wait, before the abort, the fetching of the result, the report, the closing of the event. -/
inductive Pc where
  | enter
  | create
  | submit
  | wait
  | abort
  | result (immediate : Bool)
  | report
  | close (ret : Bool)
  | returned (ret : Bool)
deriving DecidableEq, Repr

/-- The read that a call has submitted. -/
inductive Transfer where
  | idle
  | pending
  | completed (length : Nat)
  | aborted
  | failed
deriving DecidableEq, Repr

/-- The event that a call has created. `misused` is one that was closed without being open. -/
inductive EventHandle where
  | absent
  | opened
  | closed
  | misused
deriving DecidableEq, Repr

/-- `CloseHandle` on the event. -/
def EventHandle.close : EventHandle → EventHandle
  | opened => closed
  | _ => misused

/-- A call under way. `delivered` are the packets that have completed a read so far, `dumped` those
    that have been reported, over all calls. -/
structure Read where
  pc : Pc
  event : EventHandle
  transfer : Transfer
  buffer : List UInt8
  bytesRead : Nat
  delivered : List (List UInt8)
  dumped : List (List UInt8)
deriving DecidableEq, Repr

/-- What `WinUsb_ReadPipe` answers: it has read a packet at once, the read is pending, an error. -/
inductive Submission where
  | done (packet : List UInt8)
  | pending
  | error
deriving DecidableEq, Repr

/-- What `WinUsb_GetOverlappedResult` answers: the bytes read, `ERROR_OPERATION_ABORTED`, another
    error. -/
inductive Fetch where
  | done (length : Nat)
  | aborted
  | error
deriving DecidableEq, Repr

/-- An action of the program, with its answer, or an event of the device. -/
inductive Action where
  | guard
  | createEvent (ok : Bool)
  | readPipe (answer : Submission)
  | waitObject
  | waitTimeout
  | waitFailed
  | abortPipe
  | getResult (answer : Fetch)
  | dump
  | closeHandle
  | arrive (packet : List UInt8)
  | fault
deriving DecidableEq, Repr

/-- The locals of a new call. -/
def Read.begin (s : Read) : Read :=
  { s with pc := .enter, event := .absent, transfer := .idle, bytesRead := 0 }

/-- A packet completes the read. -/
def Read.complete (s : Read) (packet : List UInt8) : Read :=
  { s with
    transfer := .completed packet.length
    buffer := packet ++ s.buffer.drop packet.length
    delivered := s.delivered ++ [packet] }

/-- One step of `ks959_read_once`, or of the device while the call is under way. -/
def readStep (c : ReadLoop) (s : Read) (l : Action) : Option Read :=
  match s.pc, l with
  | .returned _, _ => none
  | .enter, .guard =>
    if usable c.dev then some { s with pc := .create, buffer := List.replicate c.bufferSize 0 }
    else some { s with pc := .returned false }
  | .create, .createEvent ok =>
    if ok then some { s with pc := .submit, event := .opened }
    else some { s with pc := .returned false }
  | .submit, .readPipe (.done packet) =>
    if packet.length ≤ c.readSize then some { s.complete packet with pc := .result true } else none
  | .submit, .readPipe .pending => some { s with pc := .wait, transfer := .pending }
  | .submit, .readPipe .error => some { s with pc := .close false }
  | .wait, .waitObject =>
    if s.transfer = .pending then none else some { s with pc := .result false }
  | .wait, .waitTimeout => if s.transfer = .pending then some { s with pc := .abort } else none
  | .wait, .waitFailed => some { s with pc := .close false }
  | .abort, .abortPipe =>
    if s.transfer = .pending then some { s with pc := .close true, transfer := .aborted }
    else some { s with pc := .close true }
  | .result _, .getResult (.done n) => some { s with pc := .report, bytesRead := n }
  | .result immediate, .getResult .aborted => some { s with pc := .close (!immediate) }
  | .result _, .getResult .error => some { s with pc := .close false }
  | .report, .dump =>
    some { s with pc := .close true, dumped := s.dumped ++ [s.buffer.take s.bytesRead] }
  | .close ret, .closeHandle => some { s with pc := .returned ret, event := s.event.close }
  | _, .arrive packet =>
    if s.transfer = .pending ∧ packet.length ≤ c.readSize then some (s.complete packet) else none
  | _, .fault => if s.transfer = .pending then some { s with transfer := .failed } else none
  | _, _ => none

/-- The steps that `readStep` takes, one case for each way out of each place. -/
inductive Moves (c : ReadLoop) (s : Read) : Action → Read → Prop where
  | usable (pc : s.pc = .enter) (ok : usable c.dev = true) :
      Moves c s .guard { s with pc := .create, buffer := List.replicate c.bufferSize 0 }
  | unusable (pc : s.pc = .enter) (bad : usable c.dev = false) :
      Moves c s .guard { s with pc := .returned false }
  | created (pc : s.pc = .create) :
      Moves c s (.createEvent true) { s with pc := .submit, event := .opened }
  | uncreated (pc : s.pc = .create) :
      Moves c s (.createEvent false) { s with pc := .returned false }
  | immediate (packet : List UInt8) (pc : s.pc = .submit) (fits : packet.length ≤ c.readSize) :
      Moves c s (.readPipe (.done packet)) { s.complete packet with pc := .result true }
  | submitted (pc : s.pc = .submit) :
      Moves c s (.readPipe .pending) { s with pc := .wait, transfer := .pending }
  | refused (pc : s.pc = .submit) : Moves c s (.readPipe .error) { s with pc := .close false }
  | signalled (pc : s.pc = .wait) (ended : s.transfer ≠ .pending) :
      Moves c s .waitObject { s with pc := .result false }
  | timeout (pc : s.pc = .wait) (pending : s.transfer = .pending) :
      Moves c s .waitTimeout { s with pc := .abort }
  | waitFailed (pc : s.pc = .wait) : Moves c s .waitFailed { s with pc := .close false }
  | cancelled (pc : s.pc = .abort) (pending : s.transfer = .pending) :
      Moves c s .abortPipe { s with pc := .close true, transfer := .aborted }
  | late (pc : s.pc = .abort) (ended : s.transfer ≠ .pending) :
      Moves c s .abortPipe { s with pc := .close true }
  | fetched (n : Nat) (immediate : Bool) (pc : s.pc = .result immediate) :
      Moves c s (.getResult (.done n)) { s with pc := .report, bytesRead := n }
  | fetchAborted (immediate : Bool) (pc : s.pc = .result immediate) :
      Moves c s (.getResult .aborted) { s with pc := .close (!immediate) }
  | fetchFailed (immediate : Bool) (pc : s.pc = .result immediate) :
      Moves c s (.getResult .error) { s with pc := .close false }
  | dumped (pc : s.pc = .report) :
      Moves c s .dump
        { s with pc := .close true, dumped := s.dumped ++ [s.buffer.take s.bytesRead] }
  | eventClosed (ret : Bool) (pc : s.pc = .close ret) :
      Moves c s .closeHandle { s with pc := .returned ret, event := s.event.close }
  | arrived (packet : List UInt8) (running : ∀ ret, s.pc ≠ .returned ret)
      (pending : s.transfer = .pending) (fits : packet.length ≤ c.readSize) :
      Moves c s (.arrive packet) (s.complete packet)
  | faulted (running : ∀ ret, s.pc ≠ .returned ret) (pending : s.transfer = .pending) :
      Moves c s .fault { s with transfer := .failed }

/-- A call takes only these steps. -/
lemma readStep_moves {c : ReadLoop} {s s' : Read} {l : Action} (step : readStep c s l = some s') :
    Moves c s l s' := by
  unfold readStep at step
  split at step
  case h_1 => cases step
  case h_2 pc =>
    split_ifs at step with ok
    · cases step
      exact .usable pc ok
    · cases step
      exact .unusable pc (Bool.not_eq_true _ ▸ ok)
  case h_3 ok pc =>
    cases ok with
    | true => cases step; exact .created pc
    | false => cases step; exact .uncreated pc
  case h_4 packet pc =>
    split_ifs at step with fits
    cases step
    exact .immediate packet pc fits
  case h_5 pc => cases step; exact .submitted pc
  case h_6 pc => cases step; exact .refused pc
  case h_7 pc =>
    split_ifs at step with pending
    cases step
    exact .signalled pc pending
  case h_8 pc =>
    split_ifs at step with pending
    cases step
    exact .timeout pc pending
  case h_9 pc => cases step; exact .waitFailed pc
  case h_10 pc =>
    split_ifs at step with pending
    · cases step
      exact .cancelled pc pending
    · cases step
      exact .late pc pending
  case h_11 immediate n pc => cases step; exact .fetched n immediate pc
  case h_12 immediate pc => cases step; exact .fetchAborted immediate pc
  case h_13 immediate pc => cases step; exact .fetchFailed immediate pc
  case h_14 pc => cases step; exact .dumped pc
  case h_15 ret pc => cases step; exact .eventClosed ret pc
  case h_16 packet running =>
    split_ifs at step with enabled
    cases step
    exact .arrived packet running enabled.1 enabled.2
  case h_17 running =>
    split_ifs at step with pending
    cases step
    exact .faulted running pending
  case h_18 => cases step

/-- A call has created no event and closed none. -/
structure Eventless (ls : List Action) (s : Read) : Prop where
  event : s.event = .absent
  created : .createEvent true ∉ ls
  closed : ls.count .closeHandle = 0

/-- A call has created an event and not closed it. -/
structure Opened (ls : List Action) (s : Read) : Prop where
  event : s.event = .opened
  created : .createEvent true ∈ ls
  closed : ls.count .closeHandle = 0

/-- A call has created an event and closed it, once. -/
structure ClosedOnce (ls : List Action) (s : Read) : Prop where
  event : s.event = .closed
  created : .createEvent true ∈ ls
  closed : ls.count .closeHandle = 1

/-- The event of a call, by the place where the call stands and what has happened so far. -/
def EventInv (ls : List Action) (s : Read) : Prop :=
  match s.pc with
  | .enter | .create => Eventless ls s
  | .returned _ => Eventless ls s ∨ ClosedOnce ls s
  | _ => Opened ls s

/-- A step that leaves the event alone leaves a call without one. -/
lemma Eventless.other {ls : List Action} {s s' : Read} {l : Action} (e : Eventless ls s)
    (same : s'.event = s.event) (create : l ≠ .createEvent true) (close : l ≠ .closeHandle) :
    Eventless (ls ++ [l]) s' where
  event := same.trans e.event
  created := by simp [e.created, create.symm]
  closed := by simp [e.closed, close]

/-- A step that leaves the event alone leaves it open. -/
lemma Opened.other {ls : List Action} {s s' : Read} {l : Action} (o : Opened ls s)
    (same : s'.event = s.event) (close : l ≠ .closeHandle) : Opened (ls ++ [l]) s' where
  event := same.trans o.event
  created := List.mem_append_left _ o.created
  closed := by simp [o.closed, close]

/-- The device does nothing to the event. -/
lemma EventInv.device {ls : List Action} {s s' : Read} {l : Action} (inv : EventInv ls s)
    (running : ∀ ret, s.pc ≠ .returned ret) (pc : s'.pc = s.pc) (same : s'.event = s.event)
    (create : l ≠ .createEvent true) (close : l ≠ .closeHandle) : EventInv (ls ++ [l]) s' := by
  unfold EventInv at inv ⊢
  rw [pc]
  cases place : s.pc with
  | enter | create => rw [place] at inv; exact inv.other same create close
  | returned ret => exact absurd place (running ret)
  | submit | wait | abort | result | report | close =>
    rw [place] at inv
    exact inv.other same close

/-- The event is created once and closed once. -/
lemma EventInv.step {c : ReadLoop} {ls : List Action} {s s' : Read} {l : Action}
    (inv : EventInv ls s) (m : Moves c s l s') : EventInv (ls ++ [l]) s' := by
  cases m with
  | arrived packet running => exact inv.device running rfl rfl nofun nofun
  | faulted running => exact inv.device running rfl rfl nofun nofun
  | usable pc =>
    simp only [EventInv, pc] at inv ⊢
    exact inv.other rfl nofun nofun
  | unusable pc | uncreated pc =>
    simp only [EventInv, pc] at inv ⊢
    exact .inl (inv.other rfl nofun nofun)
  | created pc =>
    simp only [EventInv, pc] at inv ⊢
    exact ⟨rfl, by simp, by simp [inv.closed]⟩
  | eventClosed ret pc =>
    simp only [EventInv, pc] at inv ⊢
    exact .inr ⟨by rw [inv.event]; rfl, by simp [inv.created], by simp [inv.closed]⟩
  | immediate packet pc | submitted pc | refused pc | signalled pc | timeout pc | waitFailed pc
  | cancelled pc | late pc | fetched n immediate pc | fetchAborted immediate pc
  | fetchFailed immediate pc | dumped pc =>
    simp only [EventInv, pc] at inv ⊢
    exact inv.other rfl nofun

/-- The device has ended the read: with a packet, or with an error. -/
def Action.completes : Action → Prop
  | .arrive _ => True
  | .fault => True
  | _ => False

/-- Nothing has completed a read so far. -/
def Quiet (ls : List Action) : Prop := ∀ l ∈ ls, ¬ l.completes

/-- The wait has failed, and the read has not ended since. -/
def Abandoned (ls : List Action) : Prop := .waitFailed ∈ ls ∧ Quiet ls

/-- The read of a call, by the place where the call stands and what has happened so far. -/
def TransferInv (ls : List Action) (s : Read) : Prop :=
  match s.pc with
  | .enter | .create | .submit => s.transfer = .idle ∧ .waitFailed ∉ ls ∧ Quiet ls
  | .wait | .abort => .waitFailed ∉ ls ∧ (s.transfer = .pending ↔ Quiet ls)
  | .result _ | .report => .waitFailed ∉ ls ∧ s.transfer ≠ .pending
  | .close _ | .returned _ => s.transfer = .pending ↔ Abandoned ls

/-- Nothing has completed the read with one action more. -/
lemma quiet_concat {ls : List Action} {l : Action} :
    Quiet (ls ++ [l]) ↔ Quiet ls ∧ ¬ l.completes := by
  simp [Quiet, or_imp, forall_and]

/-- A pending read that the device ends is not pending and not abandoned. -/
lemma TransferInv.completed {ls : List Action} {s s' : Read} {l : Action} (inv : TransferInv ls s)
    (pending : s.transfer = .pending) (pc : s'.pc = s.pc) (ended : s'.transfer ≠ .pending)
    (completes : l.completes) : TransferInv (ls ++ [l]) s' := by
  have ran : l ≠ .waitFailed := by
    rintro rfl
    exact completes
  have loud : ¬ Quiet (ls ++ [l]) := fun quiet => (quiet_concat.mp quiet).2 completes
  have kept (fresh : Action.waitFailed ∉ ls) : Action.waitFailed ∉ ls ++ [l] := by
    simp [fresh, ran.symm]
  have no_read (idle : s.transfer = .idle) : False := by cases idle.symm.trans pending
  unfold TransferInv at inv ⊢
  rw [pc]
  cases place : s.pc with
  | enter | create | submit => rw [place] at inv; exact (no_read inv.1).elim
  | wait | abort => rw [place] at inv; exact ⟨kept inv.1, iff_of_false ended loud⟩
  | result | report => rw [place] at inv; exact (inv.2 pending).elim
  | close | returned => exact iff_of_false ended fun abandoned => loud abandoned.2

/-- An action of the program other than a wait that fails. -/
def Calm : Action → Prop
  | .waitFailed | .arrive _ | .fault => False
  | _ => True

/-- A calm action completes no read. -/
lemma Calm.quiet_iff {ls : List Action} {l : Action} (calm : Calm l) :
    Quiet ls ↔ Quiet (ls ++ [l]) := by
  refine (quiet_concat.trans (and_iff_left fun completes => ?_)).symm
  cases l with
  | arrive | fault => exact calm
  | _ => exact completes

/-- After a calm action nothing has completed the read either. -/
lemma Calm.quiet {ls : List Action} {l : Action} (calm : Calm l) (quiet : Quiet ls) :
    Quiet (ls ++ [l]) :=
  calm.quiet_iff.mp quiet

/-- A calm action is no wait that fails. -/
lemma Calm.fresh {ls : List Action} {l : Action} (calm : Calm l) (fresh : .waitFailed ∉ ls) :
    .waitFailed ∉ ls ++ [l] := by
  have other : Action.waitFailed ≠ l := by
    rintro rfl
    exact calm
  simp [fresh, other]

/-- A calm action neither abandons a read nor takes one up again. -/
lemma Calm.abandoned_iff {ls : List Action} {l : Action} (calm : Calm l) :
    Abandoned ls ↔ Abandoned (ls ++ [l]) :=
  and_congr ⟨List.mem_append_left _, not_imp_not.mp calm.fresh⟩ calm.quiet_iff

/-- A read that is over while the wait has not failed. -/
lemma Calm.settled {ls : List Action} {l : Action} {t : Transfer} (calm : Calm l)
    (fresh : .waitFailed ∉ ls) (ended : t ≠ .pending) :
    t = .pending ↔ Abandoned (ls ++ [l]) :=
  iff_of_false ended fun abandoned => fresh (calm.abandoned_iff.mpr abandoned).1

/-- Apart from what the device does, a read that is still pending is given up by the failure of the
    wait only. -/
lemma TransferInv.step {c : ReadLoop} {ls : List Action} {s s' : Read} {l : Action}
    (inv : TransferInv ls s) (m : Moves c s l s') : TransferInv (ls ++ [l]) s' := by
  cases m with
  | arrived packet _ pending => exact inv.completed pending rfl Transfer.noConfusion trivial
  | faulted _ pending => exact inv.completed pending rfl Transfer.noConfusion trivial
  | usable pc | created pc =>
    simp only [TransferInv, pc] at inv ⊢
    exact ⟨inv.1, Calm.fresh trivial inv.2.1, Calm.quiet trivial inv.2.2⟩
  | unusable pc | uncreated pc | refused pc =>
    simp only [TransferInv, pc] at inv ⊢
    have ended : s.transfer ≠ .pending := by
      rw [inv.1]
      nofun
    exact Calm.settled trivial inv.2.1 ended
  | immediate packet pc =>
    simp only [TransferInv, pc] at inv ⊢
    exact ⟨Calm.fresh trivial inv.2.1, Transfer.noConfusion⟩
  | submitted pc =>
    simp only [TransferInv, pc] at inv ⊢
    exact ⟨Calm.fresh trivial inv.2.1, iff_of_true trivial (Calm.quiet trivial inv.2.2)⟩
  | signalled pc ended =>
    simp only [TransferInv, pc] at inv ⊢
    exact ⟨Calm.fresh trivial inv.1, ended⟩
  | timeout pc =>
    simp only [TransferInv, pc] at inv ⊢
    exact ⟨Calm.fresh trivial inv.1, inv.2.trans (Calm.quiet_iff trivial)⟩
  | waitFailed pc =>
    -- the one way to leave the wait without the read being over
    simp only [TransferInv, pc] at inv ⊢
    have failed : Action.waitFailed ∈ ls ++ [.waitFailed] :=
      List.mem_append_right ls List.mem_cons_self
    rw [inv.2, Abandoned, quiet_concat, and_iff_right failed]
    exact (and_iff_left id).symm
  | cancelled pc =>
    simp only [TransferInv, pc] at inv ⊢
    exact Calm.settled trivial inv.1 Transfer.noConfusion
  | late pc ended =>
    simp only [TransferInv, pc] at inv ⊢
    exact Calm.settled trivial inv.1 ended
  | fetched n immediate pc =>
    simp only [TransferInv, pc] at inv ⊢
    exact ⟨Calm.fresh trivial inv.1, inv.2⟩
  | fetchAborted immediate pc | fetchFailed immediate pc | dumped pc =>
    simp only [TransferInv, pc] at inv ⊢
    exact Calm.settled trivial inv.1 inv.2
  | eventClosed ret pc =>
    simp only [TransferInv, pc] at inv ⊢
    exact inv.trans (Calm.abandoned_iff trivial)

/-- A call that has returned leaves no read behind, and has closed its event once if it has created
    one. -/
def Settled (ls : List Action) (s : Read) : Prop :=
  s.transfer ≠ .pending ∧ (Eventless ls s ∨ ClosedOnce ls s)

/-- When a call returns, its event is closed, and its read is over exactly when the wait has not
    failed or the device has ended the read in time. -/
theorem call_settled_iff (c : ReadLoop) (s₀ s : Read) (ls : List Action) (ret : Bool)
    (run : Machine.run (readStep c) s₀.begin ls = some s) (returned : s.pc = .returned ret) :
    Settled ls s ↔ ¬ Abandoned ls := by
  have event : EventInv ls s := by
    have start : EventInv [] s₀.begin := ⟨rfl, List.not_mem_nil, rfl⟩
    exact Machine.run_invariant EventInv start
      (fun _ _ _ _ inv step => inv.step (readStep_moves step)) run
  have transfer : TransferInv ls s := by
    have start : TransferInv [] s₀.begin := ⟨rfl, List.not_mem_nil, nofun⟩
    exact Machine.run_invariant TransferInv start
      (fun _ _ _ _ inv step => inv.step (readStep_moves step)) run
  rw [EventInv, returned] at event
  rw [TransferInv, returned] at transfer
  have pending_iff : s.transfer = .pending ↔ Abandoned ls := transfer
  rw [Settled, Ne, pending_iff]
  exact and_iff_left event

/-- The device of the witnesses. -/
def dongle : PipeDevice := ⟨some 1, 0x81, 8⟩

/-- A read whose wait times out is settled. -/
theorem timeout_settled :
    ∃ s, Machine.run (readStep (monitorReads (some dongle)))
        (Read.begin ⟨.returned true, .absent, .idle, [], 0, [], []⟩)
        [.guard, .createEvent true, .readPipe .pending, .waitTimeout, .abortPipe, .closeHandle]
          = some s ∧
      Settled [.guard, .createEvent true, .readPipe .pending, .waitTimeout, .abortPipe,
        .closeHandle] s := by
  refine ⟨_, rfl, ?_⟩
  rw [call_settled_iff (monitorReads (some dongle)) _ _ _ true rfl rfl]
  exact fun abandoned => absurd abandoned.1 (by decide)

/-- The wait for a pending read fails: both tools return with the read still pending. -/
theorem failed_wait_leaves_read :
    ∃ s s' ls, ls = [.guard, .createEvent true, .readPipe .pending, .waitFailed, .closeHandle] ∧
      Machine.run (readStep (monitorReads (some dongle)))
        (Read.begin ⟨.returned true, .absent, .idle, [], 0, [], []⟩) ls = some s ∧
      s.pc = .returned false ∧ s.transfer = .pending ∧ ¬ Settled ls s ∧
      Machine.run (readStep (controlTestReads (some dongle)))
        (Read.begin ⟨.returned true, .absent, .idle, [], 0, [], []⟩) ls = some s' ∧
      s'.pc = .returned false ∧ s'.transfer = .pending ∧ ¬ Settled ls s' :=
  ⟨_, _, _, rfl, rfl, rfl, rfl, fun settled => settled.1 rfl, rfl, rfl, rfl,
    fun settled => settled.1 rfl⟩

end Ks959.Tools
