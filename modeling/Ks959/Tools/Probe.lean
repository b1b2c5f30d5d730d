import Ks959.Tools.WinUsb

/-!
# The device probe (`ks959-probe.c`)

`probe_ks959` takes the same steps as `ks959_open` of the other tools, but keeps the path until the
end, notes in its result how far it gets, and gives everything back behind one label. `Probes` says
what it returns for given answers, and `probe_agrees_with_open` compares it with an open: the tools
can open the dongle exactly when the probe succeeds and has found the expected endpoint.
-/

namespace Ks959.Tools
open Dialogue Device

/-- `Ks959ProbeResult`. -/
structure Ks959ProbeResult where
  foundDevice : Bool
  openedDevice : Bool
  initializedWinUsb : Bool
  foundExpectedEndpoint : Bool
  expectedPipeId : UInt8
deriving DecidableEq, Repr

/-- The locals of `probe_ks959` that are given back in the end. -/
structure ProbeLocals where
  devicePath : Option WPath
  deviceHandle : Option Nat
  winUsbHandle : Option Nat

/-- `WinUsb_Free`, if there is an interface handle. -/
def releaseInterface (winUsbHandle : Option Nat) : WinTool Unit :=
  match winUsbHandle with
  | none => halt ()
  | some winusb => win (.freeInterface winusb)

/-- `CloseHandle`, if there is a file handle. -/
def releaseFile (deviceHandle : Option Nat) : WinTool Unit :=
  match deviceHandle with
  | none => halt ()
  | some file => win (.closeFile file)

/-- `free`, if there is a path. -/
def releasePath (devicePath : Option WPath) : WinTool Unit :=
  match devicePath with
  | none => halt ()
  | some _ => win .freePath

/-- The label `cleanup` of `probe_ks959`, with what is returned and left behind the pointer. -/
def ProbeLocals.cleanup (l : ProbeLocals) (ok : Bool) (result : Ks959ProbeResult) :
    WinTool (Bool × Option Ks959ProbeResult) := do
  releaseInterface l.winUsbHandle
  releaseFile l.deviceHandle
  releasePath l.devicePath
  return (ok, some result)

/-- The result after a look at a pipe. -/
def Ks959ProbeResult.note (result : Ks959ProbeResult) (pipeInfo : PipeInformation) :
    Ks959ProbeResult :=
  if pipeInfo.pipeId = result.expectedPipeId ∧ pipeInfo.pipeType = .interrupt then
    { result with foundExpectedEndpoint := true }
  else result

/-- The loop of `probe_ks959` over the pipes. -/
def probePipes (winusb : Nat) (result : Ks959ProbeResult) :
    List Nat → WinTool (Bool × Ks959ProbeResult)
  | [] => halt (true, result)
  | i :: is => do
    match ← win (.queryPipe winusb (UInt8.ofNat i)) with
    | none => return (false, result)
    | some pipeInfo => probePipes winusb (result.note pipeInfo) is

/-- `probe_ks959`. -/
def probeKs959 (result : Option Ks959ProbeResult) : WinTool (Bool × Option Ks959ProbeResult) :=
  match result with
  | none => halt (false, none)
  | some _ => do
    let result : Ks959ProbeResult := ⟨false, false, false, false, 0x81⟩
    let search ← win .search
    if search.result.found = false then
      return (false, some result)
    else
      let devicePath := search.result.outDevicePath.join
      let result := { result with foundDevice := true }
      match ← win (.createFile devicePath) with
      | none => ProbeLocals.cleanup ⟨devicePath, none, none⟩ false result
      | some file =>
        let result := { result with openedDevice := true }
        match ← win (.winUsbInitialize file) with
        | none => ProbeLocals.cleanup ⟨devicePath, some file, none⟩ false result
        | some winusb =>
          let result := { result with initializedWinUsb := true }
          match ← win (.querySettings winusb) with
          | none => ProbeLocals.cleanup ⟨devicePath, some file, some winusb⟩ false result
          | some numEndpoints =>
            let probed ← probePipes winusb result (List.range numEndpoints.toNat)
            ProbeLocals.cleanup ⟨devicePath, some file, some winusb⟩ probed.1 probed.2

/-- `main` of `ks959-probe.c`. -/
def probeMain : WinTool Nat := do
  match ← probeKs959 (some ⟨false, false, false, false, 0⟩) with
  | (true, some result) =>
    return if result.foundDevice ∧ result.openedDevice ∧ result.initializedWinUsb then 0 else 2
  | _ => return 1

/-- A search hands out a path exactly when it reports one. -/
lemma DongleSearch.path_isSome (search : DongleSearch) :
    search.result.outDevicePath.join.isSome = search.result.found := by
  obtain ⟨r, _, path, run, out, _, _, ok⟩ := getDevicePath_booked search.env usbVid usbPid none
  have ran := search.ran
  rw [getKs959DevicePath_eq, run] at ran
  cases same : search.result with
  | mk found outDevicePath calls =>
    rw [same] at ran
    cases ran
    change r.outDevicePath.join.isSome = (r.status == .ok)
    rw [out, Bool.eq_iff_iff, beq_iff_eq, ok]
    exact Iff.rfl

/-- The interface is freed if it is held. -/
lemma releaseInterface_follows (winUsbHandle : Option Nat) (path : Bool) (file : Option Nat) :
    Follows winStep (releaseInterface winUsbHandle) ⟨path, file, winUsbHandle, false⟩
      fun _ s => s = ⟨path, file, none, false⟩ := by
  cases winUsbHandle with
  | none => exact follows_halt rfl
  | some winusb => exact follows_win fun _ => ⟨_, inOrder_pos ⟨rfl, rfl⟩ _, follows_halt rfl⟩

/-- The file is closed if it is held. -/
lemma releaseFile_follows (deviceHandle : Option Nat) (path : Bool) :
    Follows winStep (releaseFile deviceHandle) ⟨path, deviceHandle, none, false⟩
      fun _ s => s = ⟨path, none, none, false⟩ := by
  cases deviceHandle with
  | none => exact follows_halt rfl
  | some file => exact follows_win fun _ => ⟨_, inOrder_pos ⟨rfl, rfl⟩ _, follows_halt rfl⟩

/-- The path is freed if there is one. -/
lemma releasePath_follows (devicePath : Option WPath) :
    Follows winStep (releasePath devicePath) ⟨devicePath.isSome, none, none, false⟩
      fun _ s => s = .idle := by
  cases devicePath with
  | none => exact follows_halt rfl
  | some path => exact follows_win fun _ => ⟨_, inOrder_pos rfl _, follows_halt rfl⟩

/-- What the locals hold is given back. -/
lemma ProbeLocals.cleanup_follows (l : ProbeLocals) (ok : Bool) (result : Ks959ProbeResult) :
    Follows winStep (l.cleanup ok result)
      ⟨l.devicePath.isSome, l.deviceHandle, l.winUsbHandle, false⟩ fun _ s => s = .idle := by
  refine (releaseInterface_follows l.winUsbHandle _ _).bind fun _ s freed => ?_
  cases freed
  refine (releaseFile_follows l.deviceHandle _).bind fun _ s closed => ?_
  cases closed
  refine (releasePath_follows l.devicePath).bind fun _ s idle => ?_
  exact follows_halt idle

/-- The questions about the pipes leave the session as it is. -/
lemma probePipes_follows {winusb : Nat} {result : Ks959ProbeResult} {s : WinSession}
    (is : List Nat) (handle : s.winusb = some winusb) :
    Follows winStep (probePipes winusb result is) s fun _ s' => s' = s := by
  induction is generalizing result with
  | nil => exact follows_halt rfl
  | cons i is ih =>
    refine follows_win fun answered => ⟨s, inOrder_pos handle s, ?_⟩
    cases answered with
    | none => exact follows_halt rfl
    | some p => exact ih

/-- Whatever the system answers, a probe holds nothing in the end. -/
lemma probeKs959_follows (result : Option Ks959ProbeResult) :
    Follows winStep (probeKs959 result) .idle fun _ s => s = .idle := by
  cases result with
  | none => exact follows_halt rfl
  | some result =>
    refine follows_win fun search => ⟨⟨search.result.found, none, none, false⟩, inOrder_pos rfl _,
      ?_⟩
    cases found : search.result.found with
    | false => exact follows_halt rfl
    | true =>
      have held : search.result.outDevicePath.join.isSome = true :=
        search.path_isSome.trans found
      generalize search.result.outDevicePath.join = devicePath at held
      refine follows_win fun created => ⟨⟨true, created, none, false⟩, inOrder_pos ⟨rfl, rfl⟩ _, ?_⟩
      rw [← held]
      cases created with
      | none => exact ProbeLocals.cleanup_follows ⟨devicePath, none, none⟩ _ _
      | some file =>
        refine follows_win fun initialized => ⟨_, inOrder_pos ⟨rfl, rfl⟩ _, ?_⟩
        cases initialized with
        | none => exact ProbeLocals.cleanup_follows ⟨devicePath, some file, none⟩ _ _
        | some winusb =>
          refine follows_win fun settings => ⟨_, inOrder_pos rfl _, ?_⟩
          cases settings with
          | none => exact ProbeLocals.cleanup_follows ⟨devicePath, some file, some winusb⟩ _ _
          | some numEndpoints =>
            refine (probePipes_follows _ rfl).bind fun probed s same => ?_
            cases same
            exact ProbeLocals.cleanup_follows ⟨devicePath, some file, some winusb⟩ _ _

/-- `main` ends with nothing held. -/
lemma probeMain_follows : Follows winStep probeMain .idle fun _ s => s = .idle := by
  refine (probeKs959_follows _).bind fun probed s idle => ?_
  obtain ⟨ok, result⟩ := probed
  cases ok with
  | false => exact follows_halt idle
  | true =>
    cases result with
    | none => exact follows_halt idle
    | some result => exact follows_halt idle

/-- How far the answers let a probe get is what its result says. -/
structure Ks959ProbeResult.Accurate (answer : (q : WinCall) → q.Answer)
    (result : Ks959ProbeResult) : Prop where
  found : result.foundDevice = true ↔ (answer .search).result.found = true
  opened : result.openedDevice = true ↔ result.foundDevice = true ∧
    (answer (.createFile (answer .search).result.outDevicePath.join)).isSome
  initialized : result.initializedWinUsb = true ↔ result.openedDevice = true ∧
    ∃ file, answer (.createFile (answer .search).result.outDevicePath.join) = some file ∧
      (answer (.winUsbInitialize file)).isSome
  endpoint : result.foundExpectedEndpoint = true → result.initializedWinUsb = true ∧
    ∃ winusb i p, answer (.queryPipe winusb i) = some p ∧ p.Expected

section
variable {answer : (q : WinCall) → q.Answer}

/-- What comes out of a probe, by what the answers show. -/
inductive Probes (answer : (q : WinCall) → q.Answer) : Bool × Option Ks959ProbeResult → Prop where
  | probed (file winusb : Nat) (pipes : List PipeInformation)
      (openable : Openable answer file winusb pipes) (result : Ks959ProbeResult)
      (accurate : result.Accurate answer)
      (endpoint : result.foundExpectedEndpoint = true ↔ ∃ p ∈ pipes, p.Expected) :
      Probes answer (true, some result)
  | failed (result : Ks959ProbeResult) (accurate : result.Accurate answer)
      (unopenable : ∀ file winusb pipes, ¬ Openable answer file winusb pipes) :
      Probes answer (false, some result)

/-- The clean-up does not change what is returned. -/
lemma cleanup_result (l : ProbeLocals) (ok : Bool) (r : Ks959ProbeResult) :
    result answer (l.cleanup ok r) = (ok, some r) := by
  obtain ⟨devicePath, deviceHandle, winUsbHandle⟩ := l
  cases devicePath <;> cases deviceHandle <;> cases winUsbHandle <;> rfl

variable {winusb : Nat} {r : Ks959ProbeResult} {is : List Nat} {pipes : List PipeInformation}

/-- A pipe is noted exactly when it is expected. -/
lemma note_eq (expected : r.expectedPipeId = expectedPipeId) (p : PipeInformation) :
    r.note p = { r with foundExpectedEndpoint := r.foundExpectedEndpoint || decide p.Expected } := by
  obtain ⟨found, opened, initialized, endpoint, pipeId⟩ := r
  cases expected
  by_cases listened : p.Expected
  · refine (if_pos listened).trans ?_
    simp [listened]
  · refine (if_neg listened).trans ?_
    simp [listened]

/-- The endpoint has been found if one of the pipes is the expected one. -/
lemma foldl_note (expected : r.expectedPipeId = expectedPipeId) :
    pipes.foldl .note r = { r with
      foundExpectedEndpoint := r.foundExpectedEndpoint || pipes.any fun p => decide p.Expected } := by
  induction pipes generalizing r with
  | nil => simp
  | cons p pipes ih =>
    rw [List.foldl_cons, note_eq expected, List.any_cons, ← Bool.or_assoc]
    exact ih expected

/-- Where all pipes can be seen, all are noted. -/
lemma probePipes_result (queried : Queried answer winusb is pipes) :
    result answer (probePipes winusb r is) = (true, pipes.foldl .note r) := by
  induction queried generalizing r with
  | nil => rfl
  | cons asked _ ih =>
    refine (result_bind answer).trans ?_
    rw [win, question, result_ask, asked]
    exact ih

/-- A query has failed: the pipes before it have been noted. -/
lemma probePipes_failed (unqueried : ∀ pipes, ¬ Queried answer winusb is pipes) :
    ∃ before : List PipeInformation,
      result answer (probePipes winusb r is) = (false, before.foldl .note r) ∧
      ∀ p ∈ before, ∃ i, answer (.queryPipe winusb i) = some p := by
  induction is generalizing r with
  | nil => exact absurd .nil (unqueried [])
  | cons i is ih =>
    rw [probePipes, bind_eq, result_bind, win, question, result_ask]
    cases asked : answer (.queryPipe winusb (UInt8.ofNat i)) with
    | none => exact ⟨[], rfl, List.forall_mem_nil _⟩
    | some p =>
      obtain ⟨before, failed, seen⟩ := ih fun pipes queried =>
        unqueried (p :: pipes) (.cons asked queried)
      refine ⟨p :: before, failed, fun q mem => ?_⟩
      obtain rfl | mem := List.mem_cons.mp mem
      · exact ⟨_, asked⟩
      · exact seen q mem

/-- What comes out of the loop over the pipes is accurate. -/
lemma accurate_foldl {file : Nat} {before : List PipeInformation}
    (found : (answer .search).result.found = true)
    (created : answer (.createFile (answer .search).result.outDevicePath.join) = some file)
    (initialized : answer (.winUsbInitialize file) = some winusb)
    (seen : ∀ p ∈ before, ∃ i, answer (.queryPipe winusb i) = some p) :
    (before.foldl .note (⟨true, true, true, false, expectedPipeId⟩ : Ks959ProbeResult)).Accurate
      answer := by
  rw [foldl_note rfl]
  refine ⟨by simp [found], by simp [created], by simp [created, initialized], fun endpoint => ?_⟩
  simp only [Bool.false_or, List.any_eq_true, decide_eq_true_eq] at endpoint
  obtain ⟨p, mem, expected⟩ := endpoint
  obtain ⟨i, asked⟩ := seen p mem
  exact ⟨rfl, winusb, i, p, asked, expected⟩

/-- Each pipe of the list has been seen. -/
lemma Queried.seen (queried : Queried answer winusb is pipes) :
    ∀ p ∈ pipes, ∃ i, answer (.queryPipe winusb i) = some p := by
  induction queried with
  | nil => exact nofun
  | cons asked _ ih =>
    intro p mem
    obtain rfl | mem := List.mem_cons.mp mem
    · exact ⟨_, asked⟩
    · exact ih p mem

/-- The result of a probe is told by the answers. -/
lemma probeKs959_probes (answer : (q : WinCall) → q.Answer) (r : Ks959ProbeResult) :
    Probes answer (result answer (probeKs959 (some r))) := by
  simp only [probeKs959, win, bind_eq, question_bind, result_ask]
  cases reaches answer with
  | nothing found stuck =>
    simp only [found, if_true, pure_eq, result_halt]
    exact .failed _ ⟨by simp [found], by simp, by simp, by simp⟩ stuck
  | path found created stuck =>
    simp only [found, created, Bool.true_eq_false, if_false, result_ask, cleanup_result]
    exact .failed _ ⟨by simp [found], by simp [created], by simp, by simp⟩ stuck
  | file file found created initialized stuck =>
    simp only [found, created, initialized, Bool.true_eq_false, if_false, result_ask,
      cleanup_result]
    exact .failed _ ⟨by simp [found], by simp [created], by simp [created, initialized],
      by simp⟩ stuck
  | interface file winusb found created initialized settings stuck =>
    simp only [found, created, initialized, settings, Bool.true_eq_false, if_false, result_ask,
      cleanup_result]
    have unseen : ∀ p ∈ ([] : List PipeInformation), ∃ i, answer (.queryPipe winusb i) = some p :=
      List.forall_mem_nil _
    exact .failed _ (accurate_foldl found created initialized unseen) stuck
  | settings file winusb n found created initialized settings unqueried stuck =>
    simp only [found, created, initialized, settings, Bool.true_eq_false, if_false, result_ask,
      result_bind, cleanup_result]
    obtain ⟨before, failed, seen⟩ :=
      @probePipes_failed answer winusb ⟨true, true, true, false, 0x81⟩ _ unqueried
    rw [failed]
    exact .failed _ (accurate_foldl found created initialized seen) stuck
  | pipes file winusb pipes openable =>
    obtain ⟨n, settings, queried⟩ := openable.queried
    simp only [openable.found, openable.created, openable.initialized, settings,
      Bool.true_eq_false, if_false, result_ask, result_bind, cleanup_result,
      probePipes_result queried]
    refine .probed file winusb pipes openable _
      (accurate_foldl openable.found openable.created openable.initialized queried.seen) ?_
    rw [foldl_note rfl]
    simp

/-- The exit code says whether the probe has succeeded: `main` never gets to its second error. -/
lemma probeMain_result (given : Ks959ProbeResult) :
    result answer probeMain = if (result answer (probeKs959 (some given))).1 then 0 else 1 := by
  have main : result answer probeMain = _ := result_bind answer
  have probed := probeKs959_probes answer given
  rw [main]
  change (result answer (match result answer (probeKs959 (some given)) with
    | (true, some r) => _
    | _ => _)) = _
  generalize result answer (probeKs959 (some given)) = probe at probed
  cases probed with
  | failed => rfl
  | probed file winusb pipes openable r accurate endpoint =>
    have found := accurate.found.mpr openable.found
    have opened : r.openedDevice = true := accurate.opened.mpr ⟨found, by simp [openable.created]⟩
    have initialized := accurate.initialized.mpr
      ⟨opened, file, openable.created, by simp [openable.initialized]⟩
    simp [found, opened, initialized]

/-- The last pipe to listen on is one of the pipes. -/
lemma LastExpected.expected {size : UInt16} (last : LastExpected pipes size) :
    ∃ p ∈ pipes, p.Expected := by
  obtain ⟨before, p, after, rfl, expected, _⟩ := last
  exact ⟨p, List.mem_append_right before List.mem_cons_self, expected⟩

/-- The size is that of one pipe. -/
lemma LastExpected.unique {size size' : UInt16} (last : LastExpected pipes size)
    (last' : LastExpected pipes size') : size = size' := by
  have chosen : pipes.foldl .listen WinDevice.closed = _ := foldl_listen_last last
  cases chosen.symm.trans (foldl_listen_last last')
  rfl

end

/-- What a probe says about an open, given the same answers. It succeeds exactly when all pipes of
    the interface can be seen, and its result is accurate in any case. An open succeeds exactly when
    the probe does and has found the expected endpoint; it then holds the handles that the probe
    has tried, and listens with the packet size of the last pipe that is expected. -/
theorem probe_agrees_with_open (answer : (q : WinCall) → q.Answer) (old : WinDevice)
    (given : Ks959ProbeResult) :
    ∃ ok r opened dev, result answer (probeKs959 (some given)) = (ok, some r) ∧
      result answer (openDevice (some old)) = (opened, some dev) ∧
      r.Accurate answer ∧ result answer probeMain = (if ok then 0 else 1) ∧
      (ok = true ↔ ∃ file winusb pipes, Openable answer file winusb pipes) ∧
      (opened = true ↔ ok = true ∧ r.foundExpectedEndpoint = true) ∧
      (opened = false → dev = .closed) ∧
      ∀ file winusb pipes size, Openable answer file winusb pipes → LastExpected pipes size →
        dev = ⟨⟨some winusb, expectedPipeId, size⟩, some file⟩ := by
  have main := @probeMain_result answer given
  have probed := probeKs959_probes answer given
  have opens := openDevice_opens answer old
  generalize result answer (probeKs959 (some given)) = probe at main probed
  generalize result answer (openDevice (some old)) = opening at opens
  cases probed with
  | failed r accurate stuck =>
    cases opens with
    | opened file winusb pipes size openable last => exact absurd openable (stuck _ _ _)
    | failed unexpected =>
      refine ⟨_, r, _, _, rfl, rfl, accurate, main, ?_, ?_, fun _ => rfl, ?_⟩
      · exact ⟨nofun, fun ⟨_, _, _, openable⟩ => absurd openable (stuck _ _ _)⟩
      · exact ⟨nofun, fun ⟨ok, _⟩ => ok⟩
      · exact fun _ _ _ _ openable => absurd openable (stuck _ _ _)
  | probed file winusb pipes openable r accurate endpoint =>
    have visible : ∃ file winusb pipes, Openable answer file winusb pipes :=
      ⟨file, winusb, pipes, openable⟩
    cases opens with
    | opened file' winusb' pipes' size openable' last =>
      obtain ⟨rfl, rfl, rfl⟩ := openable.unique openable'
      refine ⟨_, r, _, _, rfl, rfl, accurate, main, iff_of_true rfl visible, ?_, nofun, ?_⟩
      · exact iff_of_true rfl ⟨rfl, endpoint.mpr last.expected⟩
      · intro file'' winusb'' pipes'' size' openable'' last'
        obtain ⟨rfl, rfl, rfl⟩ := openable.unique openable''
        rw [last.unique last']
    | failed unexpected =>
      have idle := unexpected file winusb pipes openable
      refine ⟨_, r, _, _, rfl, rfl, accurate, main, iff_of_true rfl visible, ?_, fun _ => rfl, ?_⟩
      · refine ⟨nofun, fun ⟨_, found⟩ => ?_⟩
        obtain ⟨p, mem, expected⟩ := endpoint.mp found
        exact absurd expected (idle p mem)
      · intro file' winusb' pipes' size openable' last
        obtain ⟨_, _, rfl⟩ := openable.unique openable'
        obtain ⟨p, mem, expected⟩ := last.expected
        exact absurd expected (idle p mem)

end Ks959.Tools
