import Ks959.Device.Ctrl
import Ks959.Device.Discovery

/-!
# Opening and closing a device (`ks959_device.c`)

`ks959Open` and `ks959Close`, with the log of the calls they make. `open_close_disciplined` is the
resource discipline of the pair: whatever the system answers, an open that fails holds nothing, an
open that succeeds holds the device and its two handles, and closing that device gives the three
back in their order.
-/

namespace Ks959.Device
open Ledger

def errorFileNotFound : UInt32 := 2
def errorPathNotFound : UInt32 := 3
def errorAccessDenied : UInt32 := 5
def errorInvalidHandle : UInt32 := 6
def errorSharingViolation : UInt32 := 32
def errorNoMoreItems : UInt32 := 259

/-- `ks959_map_open_error`. -/
def mapOpenError (err : UInt32) : Status :=
  if err = errorFileNotFound ∨ err = errorPathNotFound ∨ err = errorNoMoreItems then
    .errNoDevice
  else if err = errorAccessDenied ∨ err = errorSharingViolation ∨ err = errorInvalidHandle then
    .errOpenFailed
  else
    .errIo

/-- What `ks959_open` returns and leaves behind its pointer. -/
structure OpenReturn where
  status : Status
  outDev : Option (Option Ks959Device)
  calls : List SysCall

/-- `ks959_open`. -/
def ks959Open (env : Env) (outDev : Option (Option Ks959Device)) : Option OpenReturn :=
  match outDev with
  | none => some ⟨.errInvalidArg, none, []⟩
  | some _ => do
    let search ← getDevicePath env usbVid usbPid (some none)
    if search.status ≠ .ok then
      some ⟨search.status, some none, search.calls⟩
    else if env.deviceAlloc = false then
      some ⟨.errInternal, some none, search.calls ++ [.alloc .device false, .free .devicePath]⟩
    else
      let dev : Ks959Device := ⟨none, none, usbVid, usbPid, 0⟩
      -- the path is freed before the handle is looked at
      let calls := search.calls ++ [.alloc .device true, .access .device,
        .createFile env.createFile, .free .devicePath]
      match env.createFile with
      | .error err =>
        some ⟨mapOpenError err, some none, calls ++ [.access .device, .free .device]⟩
      | .ok file =>
        match env.winusbInitialize with
        | .error err =>
          -- the error goes into a structure that is freed with it
          some ⟨.errWinusbInitFailed, some none, calls ++ [.winusbInitialize file (.error err),
            .access .device, .closeHandle file, .free .device]⟩
        | .ok winusb =>
          let dev := { dev with deviceHandle := some file, winusbHandle := some winusb }
          some ⟨.ok, some (some dev),
            calls ++ [.winusbInitialize file (.ok winusb), .access .device]⟩

/-- `ks959_close`. -/
def ks959Close (dev : Option Ks959Device) : List SysCall :=
  match dev with
  | none => []
  | some d =>
    [.access .device] ++
      (match d.winusbHandle with
        | none => []
        | some winusb => [.winusbFree winusb, .access .device]) ++
      (match d.deviceHandle with
        | none => []
        | some file => [.closeHandle file, .access .device]) ++
      [.free .device]

variable {ψ : Resource → Phase} {env : Env} {path : Option WPath}

/-- No system error is reported as success. -/
lemma mapOpenError_ne_ok (err : UInt32) : mapOpenError err ≠ .ok := by
  rw [mapOpenError]
  split_ifs <;> exact Status.noConfusion

/-- A search without a result holds nothing. -/
lemma Searched.idle_none (ended : Searched ψ none) (r : Resource) : ψ r ≠ .live := by
  cases r with
  | devInfo => exact ended.devInfo
  | detailData index => exact ended.idle index
  | devicePath => simp [ended.devicePath]
  | device => simp [ended.device]
  | file handle => simp [ended.file]
  | winusb handle => simp [ended.winusb]

/-- How an open ends, and what it leaves on the ledger. -/
inductive Opened (env : Env) (r : OpenReturn) (ψ : Resource → Phase) : Prop where
  | failed (error : r.status ≠ .ok) (null : r.outDev = some none) (idle : ∀ x, ψ x ≠ .live)
  | opened (file winusb : Nat) (created : env.createFile = .ok file)
      (initialized : env.winusbInitialize = .ok winusb) (ok : r.status = .ok)
      (out : r.outDev = some (some ⟨some file, some winusb, usbVid, usbPid, 0⟩))
      (held : ∀ x, ψ x = .live ↔ x = .device ∨ x = .file file ∨ x = .winusb winusb)

/-- Everything an open can do. -/
lemma ks959Open_booked (env : Env) (old : Option Ks959Device) :
    ∃ r ψ, ks959Open env (some old) = some r ∧ replay empty (events r.calls) = some ψ ∧
      Opened env r ψ := by
  obtain ⟨search, ψ, path, found, out, booked, ended, ok⟩ :=
    getDevicePath_booked env usbVid usbPid none
  rw [ks959Open, found]
  simp only [Option.bind_eq_bind, Option.bind_some]
  by_cases missing : search.status ≠ .ok
  · rw [if_pos missing]
    refine ⟨_, ψ, rfl, booked, .failed missing rfl ?_⟩
    have nothing : path = none := by simpa [ok] using missing
    rw [nothing] at ended
    exact ended.idle_none
  · have copied : ψ .devicePath = .live := by
      rw [ended.devicePath, if_pos (ok.mp (not_not.mp missing))]
    have device := ended.device
    rw [if_neg missing]
    split_ifs with alloc
    · refine ⟨_, Function.update ψ .devicePath .freed, rfl, ?_, .failed (by simp) rfl ?_⟩
      · simp [SysCall.effects, replay_append, replay_release, booked, copied]
      · intro x
        cases x <;> simp [ended.devInfo, ended.idle, ended.device, ended.file, ended.winusb]
    · cases created : env.createFile with
      | error err =>
        refine ⟨_, Function.update (Function.update (Function.update ψ .device .live)
          .devicePath .freed) .device .freed, rfl, ?_, .failed (mapOpenError_ne_ok err) rfl ?_⟩
        · simp [SysCall.effects, replay_append, replay_acquire, replay_use, replay_release, booked,
            copied, device]
        · intro x
          cases x <;> simp [ended.devInfo, ended.idle, ended.file, ended.winusb]
      | ok file =>
        have closed := ended.file file
        cases initialized : env.winusbInitialize with
        | error err =>
          refine ⟨_, Function.update (Function.update (Function.update (Function.update
            (Function.update ψ .device .live) (.file file) .live) .devicePath .freed)
            (.file file) .freed) .device .freed, rfl, ?_, .failed (by simp) rfl ?_⟩
          · simp [SysCall.effects, replay_append, replay_acquire, replay_use, replay_release,
              booked, copied, device, closed]
          · intro x
            cases x with
            | file handle =>
              refine idle_update ?_
              rcases eq_or_ne handle file with rfl | other
              · simp
              · simp [other, ended.file]
            | _ => simp [ended.devInfo, ended.idle, ended.winusb]
        | ok winusb =>
          have unbound := ended.winusb winusb
          refine ⟨_, Function.update (Function.update (Function.update
            (Function.update ψ .device .live) (.file file) .live) .devicePath .freed)
            (.winusb winusb) .live, rfl, ?_,
            .opened file winusb created initialized rfl rfl ?_⟩
          · simp [SysCall.effects, replay_append, replay_acquire, replay_use, replay_release,
              booked, copied, device, closed, unbound]
          · intro x
            cases x <;> simp [ended.devInfo, ended.idle, Function.update_apply, ended.file,
              ended.winusb]

/-- Closing an open device on a ledger that holds it. -/
lemma ks959Close_booked (dev : Ks959Device) {file winusb : Nat}
    (handle : dev.deviceHandle = some file) (interface : dev.winusbHandle = some winusb)
    (held : ∀ x, ψ x = .live ↔ x = .device ∨ x = .file file ∨ x = .winusb winusb) :
    ∃ χ, replay ψ (events (ks959Close (some dev))) = some χ ∧ ∀ x, χ x ≠ .live := by
  have device := (held .device).mpr (.inl rfl)
  have opened := (held (.file file)).mpr (.inr (.inl rfl))
  have bound := (held (.winusb winusb)).mpr (.inr (.inr rfl))
  refine ⟨Function.update (Function.update (Function.update ψ (.winusb winusb) .freed)
    (.file file) .freed) .device .freed, ?_, ?_⟩
  · simp [ks959Close, handle, interface, SysCall.effects, replay_use, replay_release, device,
      opened, bound]
  · intro x
    by_cases known : ψ x = .live
    · rcases (held x).mp known with rfl | rfl | rfl <;> simp
    · exact idle_update (idle_update (idle_update known))

/-- Whatever the system answers, an open ends, and it either hands out a device with valid handles
    and holds nothing else, or returns an error and holds nothing. The log is clean in both cases,
    and stays so when the device is closed, which gives back the interface handle, the file handle
    and the structure, in this order. -/
theorem open_close_disciplined (env : Env) (old : Option Ks959Device) :
    ∃ r, ks959Open env (some old) = some r ∧
      ((r.status ≠ .ok ∧ r.outDev = some none ∧ Disciplined (events r.calls) fun _ => False) ∨
        ∃ dev file winusb, r.status = .ok ∧ r.outDev = some (some dev) ∧
          env.createFile = .ok file ∧ env.winusbInitialize = .ok winusb ∧
          dev.deviceHandle = some file ∧ dev.winusbHandle = some winusb ∧
          Disciplined (events r.calls)
            (fun x => x = .device ∨ x = .file file ∨ x = .winusb winusb) ∧
          Disciplined (events (r.calls ++ ks959Close (some dev))) (fun _ => False) ∧
          releases (events (ks959Close (some dev))) = [.winusb winusb, .file file, .device]) := by
  obtain ⟨r, ψ, run, booked, ended⟩ := ks959Open_booked env old
  cases ended with
  | failed error null idle =>
    refine ⟨r, run, .inl ⟨error, null, ?_⟩⟩
    exact disciplined_of_replay booked fun x => ⟨False.elim, idle x⟩
  | opened file winusb created initialized ok out held =>
    obtain ⟨χ, closing, idle⟩ := ks959Close_booked
      ⟨some file, some winusb, usbVid, usbPid, 0⟩ rfl rfl held
    have closed : replay empty (events (r.calls ++ ks959Close
        (some ⟨some file, some winusb, usbVid, usbPid, 0⟩))) = some χ := by
      rw [events_append, replay_append, booked]
      exact closing
    refine ⟨r, run, .inr ⟨_, file, winusb, ok, out, created, initialized, rfl, rfl, ?_, ?_, rfl⟩⟩
    · exact disciplined_of_replay booked fun x => (held x).symm
    · exact disciplined_of_replay closed fun x => ⟨False.elim, idle x⟩

end Ks959.Device
