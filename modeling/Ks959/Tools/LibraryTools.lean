import Ks959.Device.Lifetime
import Ks959.Setup

/-!
# The tools over the library (`ks959-ctrl-matrix.c`, `ks959-lib-probe.c`)

What the two tools share: they open a device through the library, make requests without a payload
and print what the library says about them, and close the device. A probe is one library call and,
if it fails, a call for the system error (`runProbe`); what it prints is the truth about the transfer
that it has made (`runProbe_exact`), because its arguments pass all checks of the library.

`withLibrary` is `main` around what it does with the device. `withLibrary_ran` says that it gives
back whatever it has acquired.
-/

namespace Ks959.Tools
open Device Ledger

/-- `read_probe_t` and `write_probe_t`, less the label, which is only printed. -/
structure CtrlProbe where
  requestType : UInt8
  request : UInt8
  value : UInt16
  index : UInt16
  length : UInt16
deriving DecidableEq, Repr

/-- What is printed for a probe, less the bytes. -/
inductive ProbeReport where
  | done (transferred : UInt64)
  | fail (rc : Status) (osError : Option UInt32)
deriving DecidableEq, Repr

/-- How WinUSB answers a transfer that is given the buffer of a probe, or none. -/
abbrev ProbeAnswer := ControlTransfer Unit → TransferOutcome

/-- The packet of a probe: cleared, and then filled in. -/
def CtrlProbe.setup (p : CtrlProbe) : SetupPacket :=
  { zeroSetup with
    requestType := p.requestType
    request := p.request
    value := p.value
    index := p.index
    length := p.length }

/-- The call of `run_read_probe`. -/
def readCall (p : CtrlProbe) (winusb : ProbeAnswer) : ApiCall Unit :=
  .ctrlRead ⟨some p.setup, some (), p.setup.length.toUInt64, some 0, winusb⟩

/-- The call of `run_write_probe`. -/
def writeCall (p : CtrlProbe) (winusb : ProbeAnswer) : ApiCall Unit :=
  .ctrlWrite ⟨some p.setup, none, 0, some 0, winusb⟩

/-- What a probe prints, and the library calls it makes. -/
structure ProbeRun where
  report : ProbeReport
  calls : List (ApiCall Unit)

/-- `run_read_probe` and `run_write_probe`, from their call on. -/
def runProbe (dev : Option Ks959Device) (call : ApiCall Unit) : ProbeRun :=
  let r := call.perform dev
  match r.status with
  | .ok => ⟨.done (r.bytesTransferred.getD 0), [call]⟩
  | rc =>
    let os := lastOsError r.dev (some 0)
    ⟨.fail rc (if os.1 = .ok then os.2 else none), [call, .lastOsError (some 0)]⟩

/-- What `main` has done with an open device: its exit code, the reports that it prints and the
    library calls it has made. -/
structure LibraryBody where
  exit : Nat
  reports : List ProbeReport
  calls : List (ApiCall Unit)

/-- What a tool has done: its exit code, the ids and the reports that it prints, the transfers it
    has made, and what it has acquired, used and released. The banner, the version of the library
    and the line about an open that has failed are left out. -/
structure LibraryRun where
  exit : Nat
  ids : Option (UInt16 × UInt16)
  reports : List ProbeReport
  issued : List (ControlTransfer Unit × TransferOutcome)
  trace : List (Event Resource)

/-- The ids that are printed. -/
def printedIds (dev : Option Ks959Device) : Option (UInt16 × UInt16) :=
  match ks959GetVidPid dev (some 0) (some 0) with
  | (.ok, some vid, some pid) => some (vid, pid)
  | _ => none

/-- `main` around what it does with the device. -/
def withLibrary (env : Env) (body : Ks959Device → LibraryBody) : Option LibraryRun := do
  let r ← ks959Open env (some none)
  match r.status, r.outDev with
  | .ok, some (some dev) =>
    let b := body dev
    some ⟨b.exit, printedIds (some dev), b.reports, transfers (some dev) b.calls,
      lifetime r dev b.calls⟩
  | _, _ => some ⟨1, none, [], [], events r.calls⟩

/-- What is to be printed about a transfer. -/
def truth : TransferOutcome → ProbeReport
  | .done n => .done n.toUInt64
  | .failed err => .fail .errIo (some err)

/-- A call hands one transfer on, to any device with that interface. -/
def Hands (winusb : Nat) (call : ApiCall Unit) (t : ControlTransfer Unit)
    (answer : TransferOutcome) : Prop :=
  ∀ d : Ks959Device, d.winusbHandle = some winusb →
    (call.perform (some d)).issued = [(t, answer)] ∧
      match answer with
      | .done n => (call.perform (some d)).status = .ok ∧ (call.perform (some d)).dev = some d ∧
          (call.perform (some d)).bytesTransferred = some n.toUInt64
      | .failed err => (call.perform (some d)).status = .errIo ∧
          (call.perform (some d)).dev = some { d with lastOsError := err }

/-- The transfer of a read probe. -/
def readTransfer (winusb : Nat) (p : CtrlProbe) : ControlTransfer Unit :=
  ⟨winusb, fillPacket p.setup, some (), p.length.toUInt32⟩

/-- The transfer of a write probe. -/
def writeTransfer (winusb : Nat) (p : CtrlProbe) : ControlTransfer Unit :=
  ⟨winusb, fillPacket p.setup, none, 0⟩

variable {d : Ks959Device} {winusb : Nat} {call : ApiCall Unit} {p : CtrlProbe}
  {t : ControlTransfer Unit} {answer : TransferOutcome} {env : Env}
  {body : Ks959Device → LibraryBody}

/-- A probe that hands a transfer on reports the truth about it. -/
lemma runProbe_exact (bound : d.winusbHandle = some winusb) (hands : Hands winusb call t answer) :
    (runProbe (some d) call).report = truth answer ∧
      transfers (some d) (runProbe (some d) call).calls = [(t, answer)] ∧
      ∃ error, deviceAfter (some d) (runProbe (some d) call).calls
        = some { d with lastOsError := error } := by
  obtain ⟨issued, outcome⟩ := hands d bound
  cases answer with
  | done n =>
    obtain ⟨status, same, count⟩ := outcome
    have run : runProbe (some d) call = ⟨.done n.toUInt64, [call]⟩ := by
      rw [runProbe]
      simp only [status, count, Option.getD_some]
    rw [run]
    refine ⟨rfl, ?_, d.lastOsError, ?_⟩
    · rw [transfers, issued, transfers]
      rfl
    · exact same
  | failed err =>
    obtain ⟨status, moved⟩ := outcome
    have run : runProbe (some d) call
        = ⟨.fail .errIo (some err), [call, .lastOsError (some 0)]⟩ := by
      rw [runProbe]
      simp only [status, moved]
      rfl
    rw [run]
    refine ⟨rfl, ?_, err, ?_⟩
    · rw [transfers, issued, moved]
      rfl
    · rw [deviceAfter, moved]
      rfl

/-- A control transfer with admissible arguments hands its transfer on. -/
lemma hands_of_admissible {turnsDown : UInt8 → Bool} {a : CtrlArgs Unit} {s : SetupPacket}
    (run : ∀ dev, (call.perform dev).toCtrlReturn = ctrlTransfer turnsDown dev a.setup a.buffer
      a.bufferLen (some 0) a.winusb)
    (adm : ∀ d : Ks959Device, d.winusbHandle = some winusb →
      Admissible turnsDown (some d) a.setup a.buffer a.bufferLen winusb s) :
    Hands winusb call (transferOf winusb s a.buffer a.bufferLen)
      (a.winusb (transferOf winusb s a.buffer a.bufferLen)) := by
  intro d bound
  have result := run (some d)
  rw [ctrlTransfer_admissible (adm d bound)] at result
  cases answered : a.winusb (transferOf winusb s a.buffer a.bufferLen) with
  | done n =>
    rw [answered] at result
    rw [result]
    exact ⟨rfl, rfl, rfl, rfl⟩
  | failed err =>
    rw [answered] at result
    rw [result]
    exact ⟨rfl, rfl, rfl⟩

/-- A read probe passes the checks of the library. -/
lemma readCall_hands (inn : (p.requestType &&& 0x80 == 0) = false) (answer : ProbeAnswer) :
    Hands winusb (readCall p answer) (readTransfer winusb p) (answer (readTransfer winusb p)) := by
  have same : readTransfer winusb p
      = transferOf winusb p.setup (some ()) p.setup.length.toUInt64 := by
    rw [transferOf, UInt16.toUInt32_toUInt64]
    rfl
  rw [same]
  refine @hands_of_admissible winusb (readCall p answer)
    (fun requestType => requestType &&& 0x80 == 0)
    ⟨some p.setup, some (), p.setup.length.toUInt64, some 0, answer⟩ p.setup (fun _ => rfl) ?_
  intro d bound
  exact ⟨bound, rfl, inn, (UInt16.toUInt16_toUInt64 _).symm, fun _ => rfl⟩

/-- A write probe without a length passes the checks of the library. -/
lemma writeCall_hands (out : (p.requestType &&& 0x80 != 0) = false) (empty : p.length = 0)
    (answer : ProbeAnswer) :
    Hands winusb (writeCall p answer) (writeTransfer winusb p)
      (answer (writeTransfer winusb p)) := by
  refine @hands_of_admissible winusb (writeCall p answer)
    (fun requestType => requestType &&& 0x80 != 0) ⟨some p.setup, none, 0, some 0, answer⟩
    p.setup (fun _ => rfl) ?_
  intro d bound
  exact ⟨bound, rfl, out, empty, fun pos => absurd pos (UInt64.lt_irrefl 0)⟩

/-- The device that an open hands out. -/
def openedDevice (file winusb : Nat) : Ks959Device :=
  ⟨some file, some winusb, usbVid, usbPid, 0⟩

/-- The library opens a device. -/
def LibraryOpens (env : Env) : Prop := ∃ r, ks959Open env (some none) = some r ∧ r.status = .ok

/-- How a tool ends: without a device, or having done with it what its body says. -/
inductive Ran (env : Env) (body : Ks959Device → LibraryBody) : LibraryRun → Prop where
  | absent {trace : List (Event Resource)} (failed : ¬ LibraryOpens env) :
      Ran env body ⟨1, none, [], [], trace⟩
  | opened {file winusb : Nat} {trace : List (Event Resource)} (opens : LibraryOpens env)
      (initialized : env.winusbInitialize = .ok winusb) :
      Ran env body ⟨(body (openedDevice file winusb)).exit, some (usbVid, usbPid),
        (body (openedDevice file winusb)).reports,
        transfers (some (openedDevice file winusb)) (body (openedDevice file winusb)).calls, trace⟩

/-- A tool gives back whatever it has acquired. -/
lemma withLibrary_ran (env : Env) (body : Ks959Device → LibraryBody) :
    ∃ m, withLibrary env body = some m ∧ Disciplined m.trace (fun _ => False) ∧
      Ran env body m := by
  obtain ⟨r, ψ, run, booked, ended⟩ := ks959Open_booked env none
  cases ended with
  | failed error null idle =>
    refine ⟨⟨1, none, [], [], events r.calls⟩, ?_, ?_, .absent ?_⟩
    · rw [withLibrary, run]
      simp only [Option.bind_eq_bind, Option.bind_some, null]
      cases r.status <;> rfl
    · exact disciplined_of_replay booked fun x => ⟨False.elim, idle x⟩
    · rintro ⟨r', run', ok⟩
      cases run.symm.trans run'
      exact error ok
  | opened file winusb created initialized ok out held =>
    let b := body (openedDevice file winusb)
    refine ⟨⟨b.exit, some (usbVid, usbPid), b.reports,
      transfers (some (openedDevice file winusb)) b.calls,
      lifetime r (openedDevice file winusb) b.calls⟩, ?_, ?_,
        .opened ⟨r, run, ok⟩ initialized⟩
    · rw [withLibrary, run]
      simp only [Option.bind_eq_bind, Option.bind_some, ok, out]
      rfl
    · exact lifetime_clean booked held rfl rfl _

end Ks959.Tools
