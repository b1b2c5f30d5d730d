import Ks959.Tools.UsbTools

/-!
# The arm scan (`ks959_rx_arm_scan.c`)

The scan sends one configuration sequence after another, polls after each, and ends with the first
poll that brings data, or when SIGINT comes. `g_stop` is a variable that the tool looks at before
each transfer of its loops; once it has been seen set it stays so (`readStop`).

`scanStep` is a machine that holds the transfers still to come, in the order of the table, and lets
none follow data or a stop. The loops follow it (`scanLoop_follows`), and `arm_scan_first_data` says
what that means for the exchanges of a whole run.
-/

namespace Ks959.Tools
open Dialogue

/-- `ks959_seq_step_t`. -/
structure SeqStep where
  wValue : UInt16
  payload : Out8Payload

/-- `ks959_sequence_t`. -/
structure Sequence where
  name : String
  steps : List SeqStep

-- the payloads that `main` fills first
def p960003 : Out8Payload := out8 9600 0x03
def p960000 : Out8Payload := out8 9600 0x00
def p240003 : Out8Payload := out8 2400 0x03
def pZero00 : Out8Payload := out8 0 0x00
def p1920003 : Out8Payload := out8 19200 0x03

/-- `sequences`. The steps are declared `const` with payloads of zeros, over which `main` copies the
    filled ones before it opens the dongle; this is the table after the copying. -/
def sequences : List Sequence :=
  [⟨"single 9600/03 @0200", [⟨0x0200, p960003⟩]⟩,
    ⟨"single 9600/03 @0000", [⟨0x0000, p960003⟩]⟩,
    ⟨"double 9600/03 @0200 then @0000", [⟨0x0200, p960003⟩, ⟨0x0000, p960003⟩]⟩,
    ⟨"zero then 9600/03", [⟨0x0000, pZero00⟩, ⟨0x0200, p960003⟩]⟩,
    ⟨"2400 then 9600", [⟨0x0200, p240003⟩, ⟨0x0200, p960003⟩]⟩,
    ⟨"9600 flags00 then flags03", [⟨0x0200, p960000⟩, ⟨0x0200, p960003⟩]⟩,
    ⟨"19200 then 9600 then @0000",
      [⟨0x0200, p1920003⟩, ⟨0x0200, p960003⟩, ⟨0x0000, p960003⟩]⟩]

/-- Look at `g_stop`, which nothing clears. -/
def readStop (stop : Bool) : Tool Bool := if stop then halt true else usb .signal

/-- The loop of `run_sequence` over the steps; it returns `g_stop`. -/
def sendSteps : Bool → List SeqStep → Tool Bool
  | stop, [] => halt stop
  | stop, step :: steps => do
    let stop ← readStop stop
    if stop then
      return true
    else
      let _ ← sendOut8 step.wValue step.payload
      sendSteps false steps

/-- `monitor_after_sequence`: whether there was data, and `g_stop`. -/
def monitorAfterSequence : Bool → (polls : Nat) → Tool (Bool × Bool)
  | stop, 0 => halt (false, stop)
  | stop, polls + 1 => do
    let stop ← readStop stop
    if stop then
      return (false, true)
    else
      let reply ← usb (.controlIn (rxSetup 255))
      if 0 < PollReply.ret reply then return (true, false) else monitorAfterSequence false polls

/-- `run_sequence`. -/
def runSequence (stop : Bool) (seq : Sequence) (polls : Nat) : Tool (Bool × Bool) := do
  let stop ← sendSteps stop seq.steps
  monitorAfterSequence stop polls

/-- The loop of `main`: the name of the sequence that is reported. -/
def scanLoop (polls : Nat) : Bool → List Sequence → Tool (Option String)
  | _, [] => halt none
  | stop, seq :: seqs => do
    let stop ← readStop stop
    if stop then
      return none
    else
      let (gotData, stop) ← runSequence false seq polls
      if gotData then return some seq.name else scanLoop polls stop seqs

/-- `main` of `ks959_rx_arm_scan.c`. -/
def armScanMain (argv : List CString) : Tool (Int × Option (Option String)) :=
  sessionMain (scanLoop (pollsArgument argv 20) false sequences)

/-- A poll that has brought data. -/
def hasData : UsbExchange → Bool
  | ⟨.controlIn _, reply⟩ => 0 < PollReply.ret reply
  | _ => false

/-- The transfers for a sequence. -/
def Sequence.outs (seq : Sequence) : List Request :=
  seq.steps.map fun step => .out (outSetup step.wValue 0x0000 8) (some step.payload.image)

/-- The polls after a sequence. -/
def pollRequests (polls : Nat) : List Request := List.replicate polls (.poll (rxSetup 255))

/-- All transfers of a scan that finds nothing. -/
def schedule (polls : Nat) (seqs : List Sequence) : List Request :=
  seqs.flatMap fun seq => seq.outs ++ pollRequests polls

/-- How a scan stands. -/
inductive ScanPhase where
  | scanning
  | stopped
  | found
deriving DecidableEq, Repr

/-- The transfers that are still to come, and how the scan stands. -/
structure Scan where
  todo : List Request
  phase : ScanPhase

/-- The order of the transfers: as planned, and none behind data or a stop. -/
def scanStep (s : Scan) (x : UsbExchange) : Option Scan :=
  match s.phase, request? x with
  | .scanning, some r =>
    if s.todo.head? = some r then
      some ⟨s.todo.tail, if hasData x then .found else .scanning⟩
    else none
  | .scanning, none => some (if isStop x then ⟨s.todo, .stopped⟩ else s)
  | _, some _ => none
  | _, none => some s

/-- What a scan has done when it is over. -/
structure Scanned (polls : Nat) (t : List UsbExchange) (report : Option String) : Prop where
  /-- The transfers are those of the table, in its order. -/
  planned : requests t <+: schedule polls sequences
  /-- Nothing is sent or polled after data, or after SIGINT has been seen. -/
  last : ∀ before x after, t = before ++ x :: after → hasData x ∨ isStop x → requests after = []
  /-- Data is reported. -/
  success : report.isSome ↔ ∃ x ∈ t, hasData x
  /-- The sequence that is reported is the one that was sent last. -/
  named : ∀ name, report = some name → ∃ before seq after k, sequences = before ++ seq :: after ∧
    seq.name = name ∧ 0 < k ∧ k ≤ polls ∧
    requests t = schedule polls before ++ (seq.outs ++ pollRequests k)
  /-- Only data or SIGINT cuts the scan short. -/
  whole : report = none → (∀ x ∈ t, ¬ isStop x) → requests t = schedule polls sequences

variable {R S : Type} {s s' : Scan} {t before after : List UsbExchange} {todo rest : List Request}
  {polls : Nat} {x : UsbExchange}

/-- Where the loops stand with `g_stop`. -/
inductive At (todo : List Request) : Bool → Scan → Prop where
  | going : At todo false ⟨todo, .scanning⟩
  | stopped (todo' : List Request) : At todo true ⟨todo', .stopped⟩

/-- A look at `g_stop`. -/
lemma readStop_follows {stop : Bool} (here : At todo stop s) :
    Follows scanStep (readStop stop) s (At todo) := by
  cases here with
  | going =>
    refine follows_ask fun stop => ?_
    cases stop with
    | false => exact ⟨⟨todo, .scanning⟩, rfl, follows_halt .going⟩
    | true => exact ⟨⟨todo, .stopped⟩, rfl, follows_halt (.stopped todo)⟩
  | stopped todo' => exact follows_halt (.stopped todo')

/-- A loop behind a look at `g_stop`: it goes on only if that is clear. -/
lemma follows_unless_stopped {stop : Bool} {post : R → Scan → Prop} {p q : Tool R}
    (here : At todo stop s) (stopped : ∀ todo', Follows scanStep p ⟨todo', .stopped⟩ post)
    (going : Follows scanStep q ⟨todo, .scanning⟩ post) :
    Follows scanStep (readStop stop >>= fun stop => if stop = true then p else q) s post := by
  refine (readStop_follows here).bind fun stop s now => ?_
  cases now with
  | going => exact going
  | stopped todo' => exact stopped todo'

/-- The loop over the steps sends what is planned for its sequence, unless it is stopped. -/
lemma sendSteps_follows {stop : Bool} {steps : List SeqStep}
    (here : At ((⟨"", steps⟩ : Sequence).outs ++ rest) stop s) :
    Follows scanStep (sendSteps stop steps) s (At rest) := by
  induction steps generalizing stop s with
  | nil => exact follows_halt here
  | cons step steps ih =>
    refine follows_unless_stopped here (fun todo' => follows_halt (.stopped todo')) ?_
    exact follows_ask fun ret => ⟨_, if_pos rfl, ih .going⟩

/-- The next poll of the plan. -/
lemma scanStep_poll (reply : PollReply (rxSetup 255).length.toNat) :
    scanStep ⟨pollRequests (polls + 1) ++ rest, .scanning⟩ ⟨.controlIn (rxSetup 255), reply⟩
      = some ⟨pollRequests polls ++ rest,
          if hasData ⟨.controlIn (rxSetup 255), reply⟩ then .found else .scanning⟩ := by
  have next : (pollRequests (polls + 1) ++ rest).head? = some (.poll (rxSetup 255)) := rfl
  simp only [scanStep, request?]
  rw [if_pos next]
  rfl

/-- How the polls after a sequence end. -/
inductive Monitored (polls : Nat) (rest : List Request) : Bool × Bool → Scan → Prop where
  | idle (stop : Bool) (s : Scan) (here : At rest stop s) : Monitored polls rest (false, stop) s
  | data (k : Nat) (lt : k < polls) :
      Monitored polls rest (true, false) ⟨pollRequests k ++ rest, .found⟩

/-- An end of some polls is an end of one more. -/
lemma Monitored.succ {r : Bool × Bool} (m : Monitored polls rest r s) :
    Monitored (polls + 1) rest r s := by
  cases m with
  | idle stop s here => exact .idle stop s here
  | data k lt => exact .data k (Nat.lt_succ_of_lt lt)

/-- The polls after a sequence are those that are planned, and end with the first data. -/
lemma monitorAfterSequence_follows {stop : Bool} (here : At (pollRequests polls ++ rest) stop s) :
    Follows scanStep (monitorAfterSequence stop polls) s (Monitored polls rest) := by
  induction polls generalizing stop s with
  | zero => exact follows_halt (.idle stop s here)
  | succ polls ih =>
    refine follows_unless_stopped here
      (fun todo' => follows_halt (.idle _ _ (.stopped todo'))) ?_
    refine follows_usb fun reply => ⟨_, scanStep_poll reply, ?_⟩
    by_cases data : 0 < PollReply.ret reply
    · have found : hasData ⟨.controlIn (rxSetup 255), reply⟩ = true := decide_eq_true data
      rw [if_pos data, if_pos found]
      exact follows_halt (.data polls (Nat.lt_succ_self polls))
    · have idle : ¬ hasData ⟨.controlIn (rxSetup 255), reply⟩ = true :=
        fun found => data (of_decide_eq_true found)
      rw [if_neg data, if_neg idle]
      exact (ih .going).mono fun _ _ m => m.succ

/-- How the loop over the sequences ends. -/
inductive Reported (polls : Nat) (seqs : List Sequence) : Option String → Scan → Prop where
  | nothing (stop : Bool) (s : Scan) (here : At [] stop s) : Reported polls seqs none s
  | data (before : List Sequence) (seq : Sequence) (after : List Sequence) (k : Nat)
      (split : seqs = before ++ seq :: after) (lt : k < polls) :
      Reported polls seqs (some seq.name) ⟨pollRequests k ++ schedule polls after, .found⟩

/-- The loop over the sequences follows the schedule. -/
lemma scanLoop_follows {stop : Bool} {seqs : List Sequence} (here : At (schedule polls seqs) stop s) :
    Follows scanStep (scanLoop polls stop seqs) s (Reported polls seqs) := by
  induction seqs generalizing stop s with
  | nil => exact follows_halt (.nothing stop s here)
  | cons seq seqs ih =>
    refine follows_unless_stopped here
      (fun todo' => follows_halt (.nothing _ _ (.stopped todo'))) ?_
    have planned : At (seq.outs ++ (pollRequests polls ++ schedule polls seqs)) false
        ⟨schedule polls (seq :: seqs), .scanning⟩ := by
      rw [← List.append_assoc]
      exact .going
    have ran : Follows scanStep (runSequence false seq polls) _
        (Monitored polls (schedule polls seqs)) :=
      (sendSteps_follows planned).bind fun _ _ here => monitorAfterSequence_follows here
    refine ran.bind fun r s ended => ?_
    cases ended with
    | data k lt => exact follows_halt (.data [] seq seqs k rfl lt)
    | idle stop s here =>
      refine (ih here).mono fun report s done => ?_
      cases done with
      | nothing stop s here => exact .nothing stop s here
      | data before seq' after k split lt =>
        exact .data (seq :: before) seq' after k (by rw [split]; rfl) lt

/-- A silent dialogue leaves the scan where it is. -/
lemma Silent.follows {p : Tool R} (silent : Silent p) : Follows scanStep p s fun _ s' => s' = s := by
  intro t r run
  have quiet := silent t r run
  clear run
  refine ⟨s, ?_, rfl⟩
  induction t with
  | nil => rfl
  | cons x t ih =>
    obtain ⟨none, going⟩ := quiet x List.mem_cons_self
    have same : scanStep s x = some s := by
      rw [scanStep, none]
      cases phase : s.phase with
      | scanning => simp [going]
      | stopped | found => rfl
    rw [Machine.run, same]
    exact ih fun y mem => quiet y (List.mem_cons_of_mem x mem)

/-- What a step of the machine can be. -/
inductive ScanMoves (s : Scan) (x : UsbExchange) : Scan → Prop where
  | sent (r : Request) (todo : List Request) (asked : request? x = some r)
      (scanning : s.phase = .scanning) (planned : s.todo = r :: todo) :
      ScanMoves s x ⟨todo, if hasData x then .found else .scanning⟩
  | looked (asked : request? x = none) (scanning : s.phase = .scanning) :
      ScanMoves s x ⟨s.todo, if isStop x then .stopped else .scanning⟩
  | ended (asked : request? x = none) (ended : s.phase ≠ .scanning) : ScanMoves s x s

/-- The machine takes only these steps. -/
lemma scanStep_moves (step : scanStep s x = some s') : ScanMoves s x s' := by
  obtain ⟨todo, phase⟩ := s
  unfold scanStep at step
  split at step
  case h_1 r scanning asked =>
    by_cases planned : todo.head? = some r
    · rw [if_pos planned] at step
      cases step
      obtain ⟨todo', rfl⟩ := List.head?_eq_some_iff.mp planned
      exact .sent r todo' asked scanning rfl
    · rw [if_neg planned] at step
      cases step
  case h_2 scanning asked =>
    have same := ScanMoves.looked (s := ⟨todo, phase⟩) asked scanning
    obtain rfl : phase = .scanning := scanning
    split_ifs at step with stop
    · cases step
      rwa [if_pos stop] at same
    · cases step
      rwa [if_neg stop] at same
  case h_3 => cases step
  case h_4 asked other =>
    cases step
    exact .ended asked other

/-- Only a poll brings data. -/
lemma hasData_asks (data : hasData x) : request? x ≠ none := by
  obtain ⟨q, a⟩ := x
  cases q with
  | controlIn setup => exact Option.some_ne_none _
  | _ => cases data

/-- A look at `g_stop` is no transfer. -/
lemma isStop_asks (stop : isStop x) : request? x = none := by
  obtain ⟨q, a⟩ := x
  cases q with
  | signal => rfl
  | _ => cases stop

/-- What is sent is taken off the plan. -/
lemma requests_todo (run : Machine.run scanStep s t = some s') : requests t ++ s'.todo = s.todo := by
  induction t generalizing s with
  | nil =>
    cases run
    rfl
  | cons x t ih =>
    obtain ⟨s₁, step, rest⟩ := Machine.run_cons_inv run
    have tail := ih rest
    cases scanStep_moves step with
    | sent r todo asked _ planned =>
      change requests t ++ s'.todo = todo at tail
      rw [planned, ← tail, requests, List.filterMap_cons_some asked]
      rfl
    | looked asked =>
      rw [requests, List.filterMap_cons_none asked]
      exact tail
    | ended asked =>
      rw [requests, List.filterMap_cons_none asked]
      exact tail

/-- When the scan is over nothing more is sent, nor polled. -/
lemma requests_over (run : Machine.run scanStep s t = some s') (ended : s.phase ≠ .scanning) :
    requests t = [] ∧ s' = s ∧ ∀ x ∈ t, ¬ hasData x := by
  induction t generalizing s with
  | nil =>
    cases run
    exact ⟨rfl, rfl, nofun⟩
  | cons x t ih =>
    obtain ⟨s₁, step, rest⟩ := Machine.run_cons_inv run
    cases scanStep_moves step with
    | sent r todo asked scanning => exact absurd scanning ended
    | looked asked scanning => exact absurd scanning ended
    | ended asked =>
      obtain ⟨none, same, quiet⟩ := ih rest ended
      refine ⟨by rw [requests, List.filterMap_cons_none asked]; exact none, same, ?_⟩
      intro y mem
      obtain rfl | mem := List.mem_cons.mp mem
      · exact fun data => hasData_asks data asked
      · exact quiet y mem

/-- How the scan stands says what has been met on the way. -/
lemma phase_met (run : Machine.run scanStep s t = some s') (start : s.phase = .scanning) :
    (s'.phase = .found ↔ ∃ x ∈ t, hasData x) ∧ (s'.phase = .stopped → ∃ x ∈ t, isStop x) := by
  induction t generalizing s with
  | nil =>
    cases run
    rw [start]
    exact ⟨iff_of_false nofun (by simp), nofun⟩
  | cons x t ih =>
    obtain ⟨s₁, step, rest⟩ := Machine.run_cons_inv run
    cases scanStep_moves step with
    | sent r todo asked _ planned =>
      by_cases data : hasData x
      · rw [if_pos data] at rest
        obtain ⟨_, rfl, _⟩ := requests_over rest nofun
        exact ⟨iff_of_true rfl ⟨x, List.mem_cons_self, data⟩, nofun⟩
      · rw [if_neg data] at rest
        obtain ⟨found, stopped⟩ := ih rest rfl
        refine ⟨by simpa [data] using found, fun stop => ?_⟩
        obtain ⟨y, mem, stops⟩ := stopped stop
        exact ⟨y, List.mem_cons_of_mem x mem, stops⟩
    | looked asked =>
      have none : ¬ hasData x := fun data => hasData_asks data asked
      by_cases stop : isStop x
      · rw [if_pos stop] at rest
        obtain ⟨_, rfl, quiet⟩ := requests_over rest nofun
        refine ⟨iff_of_false nofun ?_, fun _ => ⟨x, List.mem_cons_self, stop⟩⟩
        rintro ⟨y, mem, data⟩
        obtain rfl | mem := List.mem_cons.mp mem
        · exact none data
        · exact quiet y mem data
      · rw [if_neg stop] at rest
        obtain ⟨found, stopped⟩ := ih rest rfl
        refine ⟨by simpa [none] using found, fun stop => ?_⟩
        obtain ⟨y, mem, stops⟩ := stopped stop
        exact ⟨y, List.mem_cons_of_mem x mem, stops⟩
    | ended asked ended => exact absurd start ended

/-- How `main` ends: without a session, or with a report. -/
inductive ScanEnd (polls : Nat) (s₀ : Scan) : Int × Option (Option String) → Scan → Prop where
  | unopened : ScanEnd polls s₀ (1, none) s₀
  | reported (report : Option String) (s : Scan) (r : Reported polls sequences report s) :
      ScanEnd polls s₀ (0, some report) s

/-- `main` follows the schedule from its first sequence on. -/
lemma armScanMain_follows (argv : List CString) :
    Follows scanStep (armScanMain argv)
      ⟨schedule (pollsArgument argv 20) sequences, .scanning⟩
      (ScanEnd (pollsArgument argv 20)
        ⟨schedule (pollsArgument argv 20) sequences, .scanning⟩) := by
  refine openKs959_silent.follows.bind fun opened s same => ?_
  rw [same]
  by_cases error : opened.ret ≠ 0
  · rw [if_pos error]
    exact follows_halt .unopened
  · rw [if_neg error]
    refine (scanLoop_follows .going).bind fun report s ended => ?_
    refine (closeKs959_silent _ _).follows.bind fun _ s' same => ?_
    rw [same]
    exact follows_halt (.reported report s ended)

/-- The polls of a sequence are those that have been made and those that have not. -/
lemma pollRequests_split {k : Nat} (lt : k < polls) :
    pollRequests polls = pollRequests (polls - k) ++ pollRequests k := by
  rw [pollRequests, pollRequests, pollRequests, ← List.replicate_add, Nat.sub_add_cancel lt.le]

/-- The schedule is the part before a sequence, the sequence with its polls, and the part after. -/
lemma schedule_split {before after : List Sequence} {seq : Sequence} :
    schedule polls (before ++ seq :: after)
      = schedule polls before ++ ((seq.outs ++ pollRequests polls) ++ schedule polls after) := by
  rw [schedule, List.flatMap_append, List.flatMap_cons]
  rfl

/-- A run from the whole plan. -/
lemma scanned {report : Option String}
    (run : Machine.run scanStep ⟨schedule polls sequences, .scanning⟩ t = some s)
    (ended : Reported polls sequences report s) : Scanned polls t report := by
  have plan := requests_todo run
  obtain ⟨found, stopped⟩ := phase_met run rfl
  refine ⟨⟨_, plan⟩, ?_, ?_, ?_, ?_⟩
  · rintro before x after rfl final
    rw [Machine.run_append] at run
    obtain ⟨s₁, _, run⟩ := Option.bind_eq_some_iff.mp run
    obtain ⟨s₂, step, rest⟩ := Machine.run_cons_inv run
    have ended : s₂.phase ≠ .scanning := by
      cases scanStep_moves step with
      | sent r todo asked =>
        obtain data | stop := final
        · rw [if_pos data]
          nofun
        · cases asked.symm.trans (isStop_asks stop)
      | looked asked =>
        obtain data | stop := final
        · exact absurd asked (hasData_asks data)
        · rw [if_pos stop]
          nofun
      | ended _ ended => exact ended
    exact (requests_over rest ended).1
  · rw [← found]
    cases ended with
    | nothing stop s here => cases here <;> exact iff_of_false nofun nofun
    | data => exact iff_of_true rfl rfl
  · rintro name rfl
    cases ended with
    | data before seq after k split lt =>
      refine ⟨before, seq, after, polls - k, split, rfl, by omega, by omega, ?_⟩
      have whole : requests t ++ (pollRequests k ++ schedule polls after)
          = (schedule polls before ++ (seq.outs ++ pollRequests (polls - k)))
            ++ (pollRequests k ++ schedule polls after) := by
        refine plan.trans ?_
        change schedule polls sequences = _
        rw [split, schedule_split, pollRequests_split lt]
        simp only [List.append_assoc]
      exact List.append_cancel_right whole
  · rintro rfl quiet
    cases ended with
    | nothing stop s here =>
      cases here with
      | going => rwa [List.append_nil] at plan
      | stopped todo =>
        obtain ⟨x, mem, stop⟩ := stopped rfl
        exact absurd stop (quiet x mem)

/-- Whatever libusb answers, and whenever SIGINT comes, the scan sends its transfers in the order of
    the table, ends with the first poll that brings data or with the stop, and reports the sequence
    it has sent last if and only if there was data. Without a session it sends nothing. -/
theorem arm_scan_first_data (argv : List CString) (t : List UsbExchange) (code : Int)
    (r : Option (Option String)) (run : Runs (armScanMain argv) t (code, r)) :
    (code = 1 ∧ r = none ∧ requests t = []) ∨
      ∃ report, code = 0 ∧ r = some report ∧ Scanned (pollsArgument argv 20) t report := by
  obtain ⟨s, follows, ended⟩ := armScanMain_follows argv t (code, r) run
  cases ended with
  | unopened =>
    have plan := requests_todo follows
    exact .inl ⟨rfl, rfl, List.append_left_eq_self.mp plan⟩
  | reported report s reported => exact .inr ⟨report, rfl, rfl, scanned follows reported⟩

/-- Without arguments, and with data at the first poll. -/
theorem arm_scan_first_data_served :
    ∃ report, (served (armScanMain [])).2 = (0, some report) ∧
      Scanned 20 (served (armScanMain [])).1 report := by
  have ended := arm_scan_first_data [] (served (armScanMain [])).1 (served (armScanMain [])).2.1
    (served (armScanMain [])).2.2 (against_runs _ _ _)
  have success : (served (armScanMain [])).2.1 = 0 := by decide
  obtain ⟨failure, _⟩ | ⟨report, _, found, scanned⟩ := ended
  · rw [success] at failure
    cases failure
  · exact ⟨report, Prod.ext success found, scanned⟩

end Ks959.Tools
