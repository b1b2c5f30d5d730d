import Ks959.Device.Open

/-!
# Bookkeeping over whole sessions

A session is any sequence of `ks959_ctrl_write`, `ks959_ctrl_read` and `ks959_last_os_error` calls
on one device, with any arguments and any answers of WinUSB (`ApiCall`). `performed` says what one
call can do; from it come the books of one call (`perform_bookkept`) and, by induction over the
session, what the error slot holds (`session_lastOsError`). `session_bookkept` puts them together
for a device that comes from `ks959_open`.
-/

namespace Ks959.Device

/-- The arguments of a control transfer, and what WinUSB answers if it is asked. -/
structure CtrlArgs (ι : Type) where
  setup : Option SetupPacket
  buffer : Option ι
  bufferLen : UInt64
  bytesTransferred : Option UInt64
  winusb : ControlTransfer ι → TransferOutcome

/-- A call on an open device. -/
inductive ApiCall (ι : Type) where
  | ctrlWrite (args : CtrlArgs ι)
  | ctrlRead (args : CtrlArgs ι)
  | lastOsError (outErrorCode : Option UInt32)

/-- What a call of a session returns and leaves behind its pointers. -/
structure CallReturn (ι : Type) extends CtrlReturn ι where
  errorCode : Option UInt32

variable {ι : Type}

/-- Make a call. -/
def ApiCall.perform (dev : Option Ks959Device) : ApiCall ι → CallReturn ι
  | .ctrlWrite a =>
    ⟨Device.ctrlWrite dev a.setup a.buffer a.bufferLen a.bytesTransferred a.winusb, none⟩
  | .ctrlRead a =>
    ⟨Device.ctrlRead dev a.setup a.buffer a.bufferLen a.bytesTransferred a.winusb, none⟩
  | .lastOsError out =>
    ⟨⟨(Device.lastOsError dev out).1, dev, none, []⟩, (Device.lastOsError dev out).2⟩

/-- What a call is given for `bytes_transferred`. -/
def ApiCall.bytesTransferred : ApiCall ι → Option UInt64
  | .ctrlWrite a => a.bytesTransferred
  | .ctrlRead a => a.bytesTransferred
  | .lastOsError _ => none

/-- The device after a session. -/
def deviceAfter (dev : Option Ks959Device) : List (ApiCall ι) → Option Ks959Device
  | [] => dev
  | call :: calls => deviceAfter (call.perform dev).dev calls

/-- The transfers a session has issued, with their outcomes. -/
def transfers (dev : Option Ks959Device) :
    List (ApiCall ι) → List (ControlTransfer ι × TransferOutcome)
  | [] => []
  | call :: calls => (call.perform dev).issued ++ transfers (call.perform dev).dev calls

/-- The system error of a failed transfer. -/
def TransferOutcome.error? : TransferOutcome → Option UInt32
  | .done _ => none
  | .failed err => some err

/-- The system error of the most recent transfer that failed, `initial` if none has. -/
def latestError (initial : UInt32) (ts : List (ControlTransfer ι × TransferOutcome)) : UInt32 :=
  (ts.filterMap fun t => t.2.error?).getLast?.getD initial

/-- The books of one call. -/
structure Bookkept (dev : Option Ks959Device) (call : ApiCall ι) : Prop where
  io : (call.perform dev).status = .errIo ↔
    ∃ t err, (t, .failed err) ∈ (call.perform dev).issued
  rejected : (call.perform dev).status = .errInvalidArg →
    (call.perform dev).issued = [] ∧ (call.perform dev).dev = dev
  counted : ∀ old, call.bytesTransferred = some old → (call.perform dev).status = .ok →
    ∃ t n, (call.perform dev).issued = [(t, .done n)] ∧
      (call.perform dev).bytesTransferred = some n.toUInt64
  uncounted : ∀ old, call.bytesTransferred = some old → (call.perform dev).status ≠ .ok →
    (call.perform dev).bytesTransferred = some 0

variable {dev : Option Ks959Device} {d : Ks959Device} {call : ApiCall ι}
  {ts us : List (ControlTransfer ι × TransferOutcome)} {initial : UInt32}

/-- The latest error of two sequences of transfers in a row. -/
lemma latestError_append :
    latestError initial (ts ++ us) = latestError (latestError initial ts) us := by
  rw [latestError, List.filterMap_append, List.getLast?_append, latestError, latestError]
  cases (us.filterMap fun t => t.2.error?).getLast? <;> rfl

/-- What a call can do: ask for the error, be turned down, fail in WinUSB, succeed. -/
inductive Performed (dev : Option Ks959Device) (call : ApiCall ι) : Prop where
  | asked (given : call.bytesTransferred = none) (status : (call.perform dev).status ≠ .errIo)
      (issued : (call.perform dev).issued = []) (same : (call.perform dev).dev = dev)
  | rejected (status : (call.perform dev).status = .errInvalidArg)
      (issued : (call.perform dev).issued = []) (same : (call.perform dev).dev = dev)
      (zero : (call.perform dev).bytesTransferred = call.bytesTransferred.map fun _ => 0)
  | failed (t : ControlTransfer ι) (err : UInt32) (status : (call.perform dev).status = .errIo)
      (issued : (call.perform dev).issued = [(t, .failed err)])
      (slot : (call.perform dev).dev = setLastError dev err)
      (zero : (call.perform dev).bytesTransferred = call.bytesTransferred.map fun _ => 0)
  | succeeded (t : ControlTransfer ι) (n : UInt32) (status : (call.perform dev).status = .ok)
      (issued : (call.perform dev).issued = [(t, .done n)])
      (same : (call.perform dev).dev = dev)
      (count : (call.perform dev).bytesTransferred
        = call.bytesTransferred.map fun _ => n.toUInt64)

/-- A control transfer is one of the last three. -/
lemma performed_ctrl (turnsDown : UInt8 → Bool) (a : CtrlArgs ι)
    (given : call.bytesTransferred = a.bytesTransferred)
    (run : (call.perform dev).toCtrlReturn = ctrlTransfer turnsDown dev a.setup a.buffer
      a.bufferLen a.bytesTransferred a.winusb) : Performed dev call := by
  obtain ⟨_, r⟩ | ⟨handle, s, _, ⟨err, _, r⟩ | ⟨n, _, r⟩⟩ :=
    @ctrlTransfer_cases ι turnsDown dev a.setup a.buffer a.bufferLen a.bytesTransferred a.winusb
  · rw [r] at run
    apply Performed.rejected <;> simp only [run, given]
  · rw [r] at run
    apply Performed.failed (transferOf handle s a.buffer a.bufferLen) err <;>
      simp only [run, given]
  · rw [r] at run
    apply Performed.succeeded (transferOf handle s a.buffer a.bufferLen) n <;>
      simp only [run, given]

/-- Everything a call can do. -/
lemma performed (dev : Option Ks959Device) (call : ApiCall ι) : Performed dev call := by
  cases call with
  | ctrlWrite a => exact performed_ctrl (fun requestType => requestType &&& 0x80 != 0) a rfl rfl
  | ctrlRead a => exact performed_ctrl (fun requestType => requestType &&& 0x80 == 0) a rfl rfl
  | lastOsError out =>
    refine .asked rfl ?_ rfl rfl
    cases dev <;> cases out <;> exact Status.noConfusion

/-- The books of one call are right, on any device. -/
lemma perform_bookkept (dev : Option Ks959Device) (call : ApiCall ι) : Bookkept dev call := by
  cases performed dev call with
  | asked given status issued same =>
    refine ⟨⟨fun io => absurd io status, ?_⟩, fun _ => ⟨issued, same⟩, ?_, ?_⟩
    · rintro ⟨t, err, mem⟩
      rw [issued] at mem
      cases mem
    · intro old some
      rw [given] at some
      cases some
    · intro old some
      rw [given] at some
      cases some
  | rejected status issued same zero =>
    refine ⟨by simp [status, issued], fun _ => ⟨issued, same⟩, ?_, ?_⟩
    · intro old _ ok
      rw [status] at ok
      cases ok
    · intro old given _
      rw [zero, given, Option.map_some]
  | failed t err status issued slot zero =>
    refine ⟨by simp [status, issued], ?_, ?_, ?_⟩
    · intro rejected
      rw [status] at rejected
      cases rejected
    · intro old _ ok
      rw [status] at ok
      cases ok
    · intro old given _
      rw [zero, given, Option.map_some]
  | succeeded t n status issued same count =>
    refine ⟨by simp [status, issued], ?_, ?_, ?_⟩
    · intro rejected
      rw [status] at rejected
      cases rejected
    · intro old given _
      exact ⟨t, n, issued, by rw [count, given, Option.map_some]⟩
    · intro old _ failed
      exact absurd status failed

/-- One call moves the error slot on to its own failure, if it has one. -/
lemma perform_lastOsError (d : Ks959Device) (call : ApiCall ι) :
    ∃ d', (call.perform (some d)).dev = some d' ∧
      d'.lastOsError = latestError d.lastOsError (call.perform (some d)).issued := by
  cases performed (some d) call with
  | asked _ _ issued same => exact ⟨d, same, by rw [issued]; rfl⟩
  | rejected _ issued same _ => exact ⟨d, same, by rw [issued]; rfl⟩
  | failed t err _ issued slot _ =>
    exact ⟨{ d with lastOsError := err }, slot, by rw [issued]; rfl⟩
  | succeeded t n _ issued same _ => exact ⟨d, same, by rw [issued]; rfl⟩

/-- The error slot holds the most recent failure of the session. -/
lemma session_lastOsError (d : Ks959Device) (calls : List (ApiCall ι)) :
    ∃ d', deviceAfter (some d) calls = some d' ∧
      d'.lastOsError = latestError d.lastOsError (transfers (some d) calls) := by
  -- the session changes the slot call by call, so the slot to start from varies
  induction calls generalizing d with
  | nil => exact ⟨d, rfl, rfl⟩
  | cons call calls ih =>
    obtain ⟨d', moved, slot⟩ := perform_lastOsError d call
    obtain ⟨d'', after, slots⟩ := ih d'
    refine ⟨d'', by rw [deviceAfter, moved, after], ?_⟩
    rw [slots, slot, transfers, moved, latestError_append]

/-- The books of any session on a device that has been opened: the error slot always reports the
    most recent failure, and every call, made at any time, is accounted for. -/
theorem session_bookkept {env : Env} {old : Option Ks959Device} {r : OpenReturn}
    (opened : ks959Open env (some old) = some r) (ok : r.status = .ok) :
    ∃ dev, r.outDev = some (some dev) ∧ ∀ calls : List (ApiCall ι),
      (∀ code, lastOsError (deviceAfter (some dev) calls) (some code)
        = (.ok, some (latestError 0 (transfers (some dev) calls)))) ∧
      ∀ call : ApiCall ι, Bookkept (deviceAfter (some dev) calls) call := by
  obtain ⟨r', ψ, run, _, ended⟩ := ks959Open_booked env old
  rw [opened] at run
  cases run
  cases ended with
  | failed error null idle => exact absurd ok error
  | opened file winusb _ _ _ out _ =>
    refine ⟨_, out, fun calls => ⟨fun code => ?_, perform_bookkept _⟩⟩
    obtain ⟨d, after, slot⟩ := session_lastOsError
      ⟨some file, some winusb, usbVid, usbPid, 0⟩ calls
    rw [after]
    exact congrArg (fun e => (Status.ok, some e)) slot

/-- The path of an attached dongle. -/
def attachedPath : WPath where
  chars := wide ['V', 'I', 'D', '_', '0', '7', 'D', '0', '&', 'P', 'I', 'D', '_',
    '4', '9', '5', '9']
  noNul := by decide

/-- One attached dongle, and a system that answers every call. -/
def attached : Env where
  classDevs := true
  interfaces := [⟨errorInsufficientBuffer, 40, true, some attachedPath, true, .replicate 2048 0⟩]
  indexed := by decide
  deviceAlloc := true
  createFile := .ok 1
  winusbInitialize := .ok 2

/-- A write of one byte that WinUSB fails with the system error 31. -/
def failingWrite : ApiCall Unit :=
  .ctrlWrite ⟨some ⟨reqtypeOutClassIface, reqSend, 0, 0, 1⟩, some (), 1, some 7,
    fun _ => .failed 31⟩

/-- The search ends at the attached dongle, with its path. -/
lemma attached_visit : ∃ calls, visitInterface usbVid usbPid 0 attached.interfaces[0]
    = some (.leave .ok (some attachedPath) calls) := by
  have found : wcsstr (pattern usbVid usbPid) ((attachedPath.chars.take 2047).map foldCase)
      = some 0 := by decide
  have matched : pathContainsVidPid (.replicate 2048 0) (some attachedPath) usbVid usbPid
      = some true := by
    rw [pathContainsVidPid_eq, found]
    rfl
  apply Exists.intro
  simp only [visitInterface, attached, List.getElem_cons_zero, matched, Option.bind_eq_bind,
    Option.bind_some]
  rfl

/-- With the dongle attached the open succeeds. -/
lemma attached_opens : ∃ calls, ks959Open attached (some none)
    = some ⟨.ok, some (some ⟨some 1, some 2, usbVid, usbPid, 0⟩), calls⟩ := by
  obtain ⟨calls, visit⟩ := attached_visit
  have search : enumLoop attached usbVid usbPid 0 = _ := enumLoop_leave rfl visit
  apply Exists.intro
  rw [ks959Open, getDevicePath, search]
  rfl

/-- After a write that has failed on the attached dongle its error is the one that is reported. -/
theorem session_bookkept_attached : ∃ r dev, ks959Open attached (some none) = some r ∧
    r.outDev = some (some dev) ∧
    lastOsError (deviceAfter (some dev) [failingWrite]) (some 0) = (.ok, some 31) := by
  obtain ⟨calls, opened⟩ := attached_opens
  obtain ⟨dev, out, books⟩ := session_bookkept (ι := Unit) opened rfl
  cases out
  exact ⟨_, _, opened, rfl, (books [failingWrite]).1 0⟩

end Ks959.Device
