import Ks959.Tools.ReadLoop
import Ks959.Tools.WinUsb

/-!
# The interrupt reads as dialogues (`ks959-monitor.c`, `ks959-control-test.c`)

`ks959_read_once` and the loop around it as dialogues with the system, which is how `main` goes
through them. `readStep` and `loopStep` are the same code beside a device that may complete a read
at any moment; `read_loop_simulated` says that what they do, in any interleaving, is a run of the
dialogue, with the same reports.
-/

namespace Ks959.Tools
open Dialogue

/-- `dev->winUsbHandle`, where it is looked at. -/
def ReadLoop.winusb (c : ReadLoop) : Nat := (c.dev.bind PipeDevice.winUsbHandle).getD 0

/-- `dev->interruptInPipe`, where it is looked at. -/
def ReadLoop.pipe (c : ReadLoop) : UInt8 := (c.dev.map PipeDevice.interruptInPipe).getD 0

/-- What a call returns, with the packets that it has dumped. -/
abbrev ReadResult := Bool × List (List UInt8)

/-- A call closes its event, and returns. -/
def closeRead (r : ReadResult) : WinTool ReadResult := do
  win .closeEvent
  return r

/-- A call fetches the result of its read. The error for an aborted read is looked for only when the
    call has waited. -/
def fetchRead (c : ReadLoop) (immediate : Bool) : WinTool ReadResult := do
  match ← win (.overlappedResult c.winusb) with
  | .packet bytes => closeRead (true, [bytes])
  | .expected => closeRead (!immediate, [])
  | .error => closeRead (false, [])

/-- A call gives up the read. -/
def abortRead (c : ReadLoop) : WinTool ReadResult := do
  win (.abortPipe c.winusb c.pipe)
  closeRead (true, [])

/-- A call waits for its read. -/
def awaitRead (c : ReadLoop) : WinTool ReadResult := do
  match ← win .waitEvent with
  | .signalled => fetchRead c false
  | .timeout => abortRead c
  | .failed => closeRead (false, [])

/-- A call submits its read. -/
def submitRead (c : ReadLoop) : WinTool ReadResult := do
  match ← win (.readPipe c.winusb c.pipe c.bufferSize c.readSize) with
  | .done => fetchRead c true
  | .pending => awaitRead c
  | .error => closeRead (false, [])

/-- A call creates its event. -/
def createRead (c : ReadLoop) : WinTool ReadResult := do
  match ← win .createEvent with
  | true => submitRead c
  | false => return (false, [])

/-- `ks959_read_once`. -/
def readOnce (c : ReadLoop) : WinTool ReadResult :=
  if usable c.dev then createRead c else halt (false, [])

/-- The loop of `main` around its reads, with the iterations that are left; `dumped` are the packets
    so far. -/
def listen (once : WinTool ReadResult) : Nat → List (List UInt8) → WinTool ReadResult
  | 0, dumped => halt (true, dumped)
  | n + 1, dumped => do
    match ← once with
    | (true, packets) => listen once n (dumped ++ packets)
    | (false, packets) => return (false, dumped ++ packets)

/-- The loop of `main` in `ks959-monitor.c` and `ks959-control-test.c`. -/
def readLoop (c : ReadLoop) (n : Nat) (dumped : List (List UInt8)) : WinTool ReadResult :=
  listen (readOnce c) n dumped

/-- What is left of a call. -/
def restOfRead (c : ReadLoop) (s : Read) : WinTool ReadResult :=
  match s.pc with
  | .enter => readOnce c
  | .create => createRead c
  | .submit => submitRead c
  | .wait => awaitRead c
  | .abort => abortRead c
  | .result immediate => fetchRead c immediate
  | .report => closeRead (true, [s.buffer.take s.bytesRead])
  | .close ret => closeRead (ret, [])
  | .returned ret => halt (ret, [])

/-- What is left of a call; the packets that it has dumped come before those that it will dump. -/
def restOfCall (c : ReadLoop) (s : Read) : WinTool ReadResult :=
  restOfRead c s >>= fun r => halt (r.1, s.dumped ++ r.2)

/-- The loop goes on, or ends, when a call has returned. -/
def goOn (c : ReadLoop) (iteration : Nat) : ReadResult → WinTool ReadResult
  | (true, dumped) => readLoop c (c.iterations - (iteration + 1)) dumped
  | (false, dumped) => halt (false, dumped)

/-- What is left of the loop. -/
def restOfLoop (c : ReadLoop) (s : Loop) : WinTool ReadResult :=
  match s.phase with
  | .head => readLoop c (c.iterations - s.iteration) s.read.dumped
  | .calling => restOfCall c s.read >>= goOn c s.iteration
  | .stopped => halt (decide (s.read.pc = .returned true), s.read.dumped)

/-- What the program sees of a submission. -/
def Submission.answer : Submission → Submitted
  | .done _ => .done
  | .pending => .pending
  | .error => .error

/-- What the program sees of a result: the bytes read are in its buffer. -/
def Fetch.answer (buffer : List UInt8) : Fetch → PacketRead
  | .done n => .packet (buffer.take n)
  | .aborted => .expected
  | .error => .error

/-- The call of WinUSB or of the system that an action of the program is, if it is one. -/
def callOf (c : ReadLoop) (s : Read) : Action → List WinExchange
  | .createEvent ok => [⟨.createEvent, ok⟩]
  | .readPipe answer => [⟨.readPipe c.winusb c.pipe c.bufferSize c.readSize, answer.answer⟩]
  | .waitObject => [⟨.waitEvent, Wait.signalled⟩]
  | .waitTimeout => [⟨.waitEvent, Wait.timeout⟩]
  | .waitFailed => [⟨.waitEvent, Wait.failed⟩]
  | .abortPipe => [⟨.abortPipe c.winusb c.pipe, ()⟩]
  | .getResult answer => [⟨.overlappedResult c.winusb, answer.answer s.buffer⟩]
  | .closeHandle => [⟨.closeEvent, ()⟩]
  | .guard | .dump | .arrive _ | .fault => []

/-- `callOf` for the loop. -/
def loopCallOf (c : ReadLoop) (s : Loop) : LoopAction → List WinExchange
  | .step l => callOf c s.read l
  | .test | .back | .arrive _ | .fault => []

variable {c : ReadLoop} {s s' : Read} {l : Action}

/-- An answer moves a call on. -/
lemma advances_win {R : Type} (q : WinCall) (a : q.Answer) (k : q.Answer → WinTool R) :
    Advances (win q >>= k) [⟨q, a⟩] (k a) :=
  advances_ask a k

/-- What is left of a call goes by its place, and by its buffer before the report. -/
lemma restOfRead_congr (pc : s'.pc = s.pc) (elsewhere : s.pc ≠ .report) :
    restOfRead c s' = restOfRead c s := by
  unfold restOfRead
  rw [pc]
  cases place : s.pc with
  | report => exact absurd place elsewhere
  | enter | create | submit | wait | abort | result | close | returned => rfl

/-- A step that dumps nothing. -/
lemma advances_call {t : List WinExchange} (dumped : s'.dumped = s.dumped)
    (advances : Advances (restOfRead c s) t (restOfRead c s')) :
    Advances (restOfCall c s) t (restOfCall c s') := by
  rw [restOfCall, restOfCall, dumped]
  exact advances.bind _

/-- A step of a call is the next call of the system, or none, and leaves the rest to be done. -/
lemma Moves.advances (m : Moves c s l s') (wf : s.Wf) :
    Advances (restOfCall c s) (callOf c s l) (restOfCall c s') := by
  cases m with
  | usable pc ok =>
    refine advances_call rfl ?_
    rw [restOfRead, pc]
    change Advances (readOnce c) [] (createRead c)
    rw [readOnce, if_pos ok]
    exact advances_nil _
  | unusable pc bad =>
    refine advances_call rfl ?_
    rw [restOfRead, pc]
    change Advances (readOnce c) [] (halt (false, []))
    rw [readOnce, bad]
    exact advances_nil _
  | created pc =>
    refine advances_call rfl ?_
    rw [restOfRead, pc]
    exact advances_win .createEvent true _
  | uncreated pc =>
    refine advances_call rfl ?_
    rw [restOfRead, pc]
    exact advances_win .createEvent false _
  | immediate packet pc =>
    refine advances_call rfl ?_
    rw [restOfRead, pc]
    exact advances_win (.readPipe _ _ _ _) .done _
  | submitted pc =>
    refine advances_call rfl ?_
    rw [restOfRead, pc]
    exact advances_win (.readPipe _ _ _ _) .pending _
  | refused pc =>
    refine advances_call rfl ?_
    rw [restOfRead, pc]
    exact advances_win (.readPipe _ _ _ _) .error _
  | signalled pc =>
    refine advances_call rfl ?_
    rw [restOfRead, pc]
    exact advances_win .waitEvent .signalled _
  | timeout pc =>
    refine advances_call rfl ?_
    rw [restOfRead, pc]
    exact advances_win .waitEvent .timeout _
  | waitFailed pc =>
    refine advances_call rfl ?_
    rw [restOfRead, pc]
    exact advances_win .waitEvent .failed _
  | cancelled pc | late pc =>
    refine advances_call rfl ?_
    rw [restOfRead, pc]
    exact advances_win (.abortPipe _ _) () _
  | fetched n immediate pc =>
    refine advances_call rfl ?_
    rw [restOfRead, pc]
    exact advances_win (.overlappedResult _) (.packet (s.buffer.take n)) _
  | fetchAborted immediate pc =>
    refine advances_call rfl ?_
    rw [restOfRead, pc]
    exact advances_win (.overlappedResult _) .expected _
  | fetchFailed immediate pc =>
    refine advances_call rfl ?_
    rw [restOfRead, pc]
    exact advances_win (.overlappedResult _) .error _
  | dumped pc =>
    -- the packet has been part of what is left, and is now part of what has been dumped
    rw [restOfCall, restOfCall, restOfRead, pc]
    change Advances _ [] (win .closeEvent >>= fun _ => halt (true, (s.dumped ++ [_]) ++ []))
    rw [List.append_nil]
    exact advances_nil _
  | eventClosed ret pc =>
    refine advances_call rfl ?_
    rw [restOfRead, pc]
    exact advances_win .closeEvent () _
  | arrived packet running pending =>
    refine advances_call rfl ?_
    have elsewhere : s.pc ≠ .report := by
      intro place
      rw [Read.Wf, place] at wf
      exact wf pending
    have same : (s.complete packet).pc = s.pc := rfl
    rw [restOfRead_congr same elsewhere]
    exact advances_nil _
  | faulted =>
    refine advances_call rfl ?_
    exact advances_nil _

section
variable {w : WinSession}

/-- A call with its event open closes it, and leaves the session as it was. -/
lemma closeRead_follows (r : ReadResult) (event : w.event = true) :
    Follows winStep (closeRead r) w fun _ w' => w' = { w with event := false } :=
  follows_win fun _ => ⟨_, inOrder_pos event _, follows_halt rfl⟩

/-- Fetching a result closes the event and leaves the rest of the session alone. -/
lemma fetchRead_follows (immediate : Bool) (handle : w.winusb = some c.winusb)
    (event : w.event = true) :
    Follows winStep (fetchRead c immediate) w fun _ w' => w' = { w with event := false } := by
  refine follows_win fun answer => ⟨w, inOrder_pos ⟨handle, event⟩ w, ?_⟩
  cases answer with
  | packet bytes => exact closeRead_follows _ event
  | expected => exact closeRead_follows _ event
  | error => exact closeRead_follows _ event

/-- Waiting for a result closes the event and leaves the rest of the session alone. -/
lemma awaitRead_follows (handle : w.winusb = some c.winusb) (event : w.event = true) :
    Follows winStep (awaitRead c) w fun _ w' => w' = { w with event := false } := by
  refine follows_win fun answer => ⟨w, inOrder_pos event w, ?_⟩
  cases answer with
  | signalled => exact fetchRead_follows false handle event
  | timeout =>
    exact follows_win fun _ => ⟨w, inOrder_pos ⟨handle, event⟩ w, closeRead_follows _ event⟩
  | failed => exact closeRead_follows _ event

/-- Whatever is answered, a call gives its event back. -/
lemma readOnce_follows (fits : c.readSize ≤ c.bufferSize) (handle : w.winusb = some c.winusb)
    (free : w.event = false) : Follows winStep (readOnce c) w fun _ w' => w' = w := by
  have same : ({ w with event := false } : WinSession) = w := by rw [← free]
  rw [readOnce]
  split
  · refine follows_win fun created => ⟨{ w with event := created }, inOrder_pos free _, ?_⟩
    cases created with
    | false => exact follows_halt same
    | true =>
      refine follows_win fun answer => ⟨_, inOrder_pos ⟨handle, rfl, fits⟩ _, ?_⟩
      rw [← same]
      cases answer with
      | done => exact fetchRead_follows true handle rfl
      | pending => exact awaitRead_follows handle rfl
      | error => exact closeRead_follows _ rfl
  · exact follows_halt rfl

/-- A loop leaves the session as it was if its reads do. -/
lemma listen_follows {once : WinTool ReadResult}
    (follows : Follows winStep once w fun _ w' => w' = w) (n : Nat) (dumped : List (List UInt8)) :
    Follows winStep (listen once n dumped) w fun _ w' => w' = w := by
  induction n generalizing dumped with
  | zero => exact follows_halt rfl
  | succ n ih =>
    refine follows.bind fun r w' same => ?_
    rw [same]
    obtain ⟨ok, packets⟩ := r
    cases ok with
    | false => exact follows_halt rfl
    | true => exact ih _

end

variable {t t' : Loop} {a : LoopAction}

/-- The place of `main` and the calls fit together. -/
structure Loop.Sound (t : Loop) : Prop where
  wf : t.Wf
  head : t.phase = .head → t.read.pc = .returned true

/-- A step of the loop stays on the way of the dialogue. -/
lemma Loop.Sound.step (sound : t.Sound) (m : LoopMoves c t a t') : t'.Sound := by
  refine ⟨sound.wf.step m, ?_⟩
  cases m with
  | call => exact nofun
  | leave => exact nofun
  | step l read phase => exact fun head => absurd (phase.symm.trans head) nofun
  | next phase pc => exact fun _ => pc
  | stop => exact nofun
  | arrived | faulted => exact sound.head

/-- The loop calls as long as there are iterations left. -/
lemma restOfLoop_more (more : t.iteration < c.iterations) (dumped : List (List UInt8)) :
    readLoop c (c.iterations - t.iteration) dumped
      = (readOnce c >>= fun r => halt (r.1, dumped ++ r.2)) >>= goOn c t.iteration := by
  obtain ⟨n, left⟩ := Nat.exists_eq_add_of_lt more
  have before : c.iterations - t.iteration = n + 1 := by omega
  have after : c.iterations - (t.iteration + 1) = n := by omega
  rw [before, readLoop, listen, bind_eq, bind_eq, bind_eq, bind_assoc]
  refine congrArg _ (funext fun r => ?_)
  obtain ⟨ok, packets⟩ := r
  cases ok with
  | false => rfl
  | true =>
    rw [halt_bind, goOn, after]
    rfl

/-- A step of the loop is the next call of the system, or none, and leaves the rest to be done. -/
lemma LoopMoves.advances (m : LoopMoves c t a t') (sound : t.Sound) :
    Advances (restOfLoop c t) (loopCallOf c t a) (restOfLoop c t') := by
  cases m with
  | call phase more =>
    rw [restOfLoop, phase, restOfLoop_more more]
    exact advances_nil _
  | leave phase used =>
    have none : c.iterations - t.iteration = 0 := by omega
    rw [restOfLoop, phase, none, restOfLoop, sound.head phase]
    exact advances_nil _
  | step l read phase m =>
    rw [restOfLoop, phase]
    exact (m.advances sound.wf.read).bind _
  | next phase pc =>
    rw [restOfLoop, phase, restOfCall, restOfRead, pc]
    change Advances (readLoop c _ (t.read.dumped ++ [])) [] (readLoop c _ t.read.dumped)
    rw [List.append_nil]
    exact advances_nil _
  | stop phase pc =>
    have failed : decide (t.read.pc = .returned true) = false := by
      rw [pc]
      rfl
    rw [restOfLoop, phase, restOfCall, restOfRead, pc]
    change Advances (halt (false, t.read.dumped ++ [])) [] (halt (decide _, t.read.dumped))
    rw [List.append_nil, failed]
    exact advances_nil _
  | arrived packet ret pc =>
    have elsewhere : t.read.pc ≠ .report := by
      rw [pc]
      exact nofun
    have same : restOfRead c (t.read.complete packet) = restOfRead c t.read :=
      restOfRead_congr rfl elsewhere
    cases phase : t.phase with
    | head | stopped =>
      rw [restOfLoop, restOfLoop, phase]
      exact advances_nil _
    | calling =>
      rw [restOfLoop, restOfLoop, phase]
      change Advances _ [] ((restOfRead c (t.read.complete packet) >>= _) >>= _)
      rw [same]
      exact advances_nil _
  | faulted =>
    exact advances_nil _

/-- Whatever the device does and when, the calls that a read loop has made are the beginning of a run
    of the loop as `main` goes through it. Once the loop is over they are a run of it, which returns
    what the last call has, has dumped the same packets, and leaves the session as it was. -/
theorem read_loop_simulated (c : ReadLoop) (fits : c.readSize ≤ c.bufferSize) (s : Loop)
    (ls : List LoopAction) (run : Machine.run (loopStep c) .start ls = some s) :
    let calls := Machine.observed (loopStep c) (loopCallOf c) .start ls
    Advances (readLoop c c.iterations []) calls (restOfLoop c s) ∧
      (s.phase = .stopped →
        Runs (readLoop c c.iterations []) calls
          (decide (s.read.pc = .returned true), s.read.dumped) ∧
        ∀ w : WinSession, w.winusb = some c.winusb → w.event = false →
          Machine.run winStep w calls = some w) := by
  have start : Loop.Sound .start := ⟨start_wf, fun _ => rfl⟩
  have advances := advances_run (restOfLoop c) Loop.Sound
    (fun _ _ _ sound step => sound.step (loopStep_moves step))
    (fun _ _ _ sound step => (loopStep_moves step).advances sound) start run
  refine ⟨advances, fun stopped => ?_⟩
  have ended : restOfLoop c s = halt (decide (s.read.pc = .returned true), s.read.dumped) := by
    rw [restOfLoop, stopped]
  rw [ended] at advances
  have ran := advances [] _ (.halt _)
  rw [List.append_nil] at ran
  refine ⟨ran, fun w handle free => ?_⟩
  have once := readOnce_follows fits handle free
  obtain ⟨w', kept, same⟩ := listen_follows once c.iterations [] _ _ ran
  rw [same] at kept
  exact kept

/-- Where the run ends in which a packet comes too late. -/
def lateEnd : Loop :=
  (Machine.run (loopStep (monitorReads (some dongle))) .start lateRun).get (by decide)

/-- A read that times out although its packet has come, and a call that gets no event. -/
theorem read_loop_simulated_late :
    ∃ calls, Runs (readLoop (monitorReads (some dongle)) 50 []) calls (false, []) ∧
      Machine.run winStep ⟨false, some 7, some 1, false⟩ calls
        = some ⟨false, some 7, some 1, false⟩ := by
  have run : Machine.run (loopStep (monitorReads (some dongle))) .start lateRun = some lateEnd :=
    (Option.some_get _).symm
  have simulated := read_loop_simulated (monitorReads (some dongle)) le_rfl lateEnd lateRun run
  obtain ⟨ran, kept⟩ := simulated.2 (by decide)
  refine ⟨_, ?_, kept ⟨false, some 7, some 1, false⟩ rfl rfl⟩
  have same : (decide (lateEnd.read.pc = .returned true), lateEnd.read.dumped) = (false, []) := by decide
  rw [same] at ran
  exact ran

end Ks959.Tools
