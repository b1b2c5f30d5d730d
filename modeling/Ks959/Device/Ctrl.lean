import Ks959.Api

/-!
# Control transfers (`ks959_device.c`)

`ctrlWrite` and `ctrlRead` are one function up to the request types they turn down
(`ctrlTransfer`). WinUSB is a parameter that answers the transfer it is given, and the result
records the transfer that was issued, if any. `ctrlTransfer_cases` says everything a call can do:
it is turned down (`Admissible` fails) and then nothing happens, or it issues the one transfer of
its arguments and reports what WinUSB answered.
-/

namespace Ks959.Device

/-- `struct ks959_device`. The handles are `none` for `INVALID_HANDLE_VALUE` and for the null
    WinUSB handle. -/
structure Ks959Device where
  deviceHandle : Option Nat
  winusbHandle : Option Nat
  vid : UInt16
  pid : UInt16
  lastOsError : UInt32
deriving DecidableEq, Repr

/-- `WINUSB_SETUP_PACKET`. -/
structure WinusbSetupPacket where
  requestType : UInt8
  request : UInt8
  value : UInt16
  index : UInt16
  length : UInt16
deriving DecidableEq, Repr

/-- The arguments of a `WinUsb_ControlTransfer`. -/
structure ControlTransfer (ι : Type) where
  handle : Nat
  packet : WinusbSetupPacket
  buffer : Option ι
  bufferLength : UInt32
deriving DecidableEq, Repr

/-- What `WinUsb_ControlTransfer` answers: the bytes transferred, or a failure, whose system error
    `GetLastError` gives right afterwards. -/
inductive TransferOutcome where
  | done (transferred : UInt32)
  | failed (error : UInt32)
deriving DecidableEq, Repr

/-- What a call returns and leaves behind its pointers, and the transfers it issued. -/
structure CtrlReturn (ι : Type) where
  status : Status
  dev : Option Ks959Device
  bytesTransferred : Option UInt64
  issued : List (ControlTransfer ι × TransferOutcome)

/-- `ks959_set_last_error`. -/
def setLastError (dev : Option Ks959Device) (err : UInt32) : Option Ks959Device :=
  match dev with
  | none => none
  | some d => some { d with lastOsError := err }

/-- `ks959_validate_setup`. -/
def validateSetup (setup : Option SetupPacket) : Status :=
  match setup with
  | none => .errInvalidArg
  | some _ => .ok

/-- The packet handed to WinUSB. -/
def fillPacket (setup : SetupPacket) : WinusbSetupPacket where
  requestType := setup.requestType
  request := setup.request
  value := setup.value
  index := setup.index
  length := setup.length

section
variable {ι : Type}

/-- The common body of `ks959_ctrl_write` and `ks959_ctrl_read`; `turnsDown` is the test of the
    request type's direction bit. -/
def ctrlTransfer (turnsDown : UInt8 → Bool) (dev : Option Ks959Device)
    (setup : Option SetupPacket) (buffer : Option ι) (bufferLen : UInt64)
    (bytesTransferred : Option UInt64) (winusb : ControlTransfer ι → TransferOutcome) :
    CtrlReturn ι :=
  let zeroed := bytesTransferred.map fun _ => 0
  let rejected : CtrlReturn ι := ⟨.errInvalidArg, dev, zeroed, []⟩
  match dev.bind Ks959Device.winusbHandle with
  | none => rejected
  | some handle =>
    match validateSetup setup, setup with
    | .ok, some s =>
      if turnsDown s.requestType then rejected
      -- the cast keeps the low 16 bits of the length, the one below the low 32
      else if s.length ≠ bufferLen.toUInt16 then rejected
      else if bufferLen > 0 ∧ buffer.isNone then rejected
      else
        let transfer := ⟨handle, fillPacket s, buffer, bufferLen.toUInt32⟩
        match winusb transfer with
        | .failed err => ⟨.errIo, setLastError dev err, zeroed, [(transfer, .failed err)]⟩
        | .done n => ⟨.ok, dev, zeroed.map fun _ => n.toUInt64, [(transfer, .done n)]⟩
    | _, _ => rejected

/-- `ks959_ctrl_write`. -/
def ctrlWrite (dev : Option Ks959Device) (setup : Option SetupPacket) (buffer : Option ι)
    (bufferLen : UInt64) (bytesTransferred : Option UInt64)
    (winusb : ControlTransfer ι → TransferOutcome) : CtrlReturn ι :=
  ctrlTransfer (fun requestType => requestType &&& 0x80 != 0) dev setup buffer bufferLen
    bytesTransferred winusb

/-- `ks959_ctrl_read`. -/
def ctrlRead (dev : Option Ks959Device) (setup : Option SetupPacket) (buffer : Option ι)
    (bufferLen : UInt64) (bytesTransferred : Option UInt64)
    (winusb : ControlTransfer ι → TransferOutcome) : CtrlReturn ι :=
  ctrlTransfer (fun requestType => requestType &&& 0x80 == 0) dev setup buffer bufferLen
    bytesTransferred winusb

/-- `ks959_last_os_error`: the status and what `*out_error_code` holds afterwards. -/
def lastOsError (dev : Option Ks959Device) (outErrorCode : Option UInt32) :
    Status × Option UInt32 :=
  match dev, outErrorCode with
  | some d, some _ => (.ok, some d.lastOsError)
  | _, _ => (.errInvalidArg, outErrorCode)

/-- The arguments that pass every check, with the handle and the packet behind the pointers. -/
structure Admissible (turnsDown : UInt8 → Bool) (dev : Option Ks959Device)
    (setup : Option SetupPacket) (buffer : Option ι) (bufferLen : UInt64) (handle : Nat)
    (s : SetupPacket) : Prop where
  device : dev.bind Ks959Device.winusbHandle = some handle
  packet : setup = some s
  direction : turnsDown s.requestType = false
  length : s.length = bufferLen.toUInt16
  buffer : bufferLen > 0 → buffer.isSome

/-- The transfer issued for admissible arguments. -/
def transferOf (handle : Nat) (s : SetupPacket) (buffer : Option ι) (bufferLen : UInt64) :
    ControlTransfer ι :=
  ⟨handle, fillPacket s, buffer, bufferLen.toUInt32⟩

variable {turnsDown : UInt8 → Bool} {dev : Option Ks959Device} {setup : Option SetupPacket}
  {buffer : Option ι} {bufferLen : UInt64} {bytesTransferred : Option UInt64}
  {winusb : ControlTransfer ι → TransferOutcome} {handle : Nat} {s : SetupPacket}

/-- Admissible arguments are handed on, and the answer is reported. -/
lemma ctrlTransfer_admissible (adm : Admissible turnsDown dev setup buffer bufferLen handle s) :
    ctrlTransfer turnsDown dev setup buffer bufferLen bytesTransferred winusb
      = match winusb (transferOf handle s buffer bufferLen) with
        | .failed err => ⟨.errIo, setLastError dev err, bytesTransferred.map fun _ => 0,
            [(transferOf handle s buffer bufferLen, .failed err)]⟩
        | .done n => ⟨.ok, dev, bytesTransferred.map fun _ => n.toUInt64,
            [(transferOf handle s buffer bufferLen, .done n)]⟩ := by
  obtain ⟨device, rfl, direction, length, buf⟩ := adm
  have nonnull : ¬ (bufferLen > 0 ∧ buffer.isNone) := by
    rintro ⟨pos, null⟩
    rw [Option.isNone_iff_eq_none] at null
    have held := buf pos
    rw [null] at held
    cases held
  have straight : ¬ turnsDown s.requestType = true := by
    rw [direction]
    exact Bool.false_ne_true
  rw [ctrlTransfer]
  simp only [device, validateSetup]
  rw [if_neg straight, if_neg (not_not.mpr length), if_neg nonnull, transferOf]
  simp only [Option.map_map, Function.comp_def]

/-- Any other arguments are turned down, and nothing is touched but the count. -/
lemma ctrlTransfer_rejected
    (inadm : ∀ handle s, ¬ Admissible turnsDown dev setup buffer bufferLen handle s) :
    ctrlTransfer turnsDown dev setup buffer bufferLen bytesTransferred winusb
      = ⟨.errInvalidArg, dev, bytesTransferred.map fun _ => 0, []⟩ := by
  rw [ctrlTransfer]
  cases device : dev.bind Ks959Device.winusbHandle with
  | none => rfl
  | some handle =>
    cases setup with
    | none => rfl
    | some s =>
      simp only [validateSetup]
      split_ifs with direction length nonnull
      · rfl
      · rfl
      · rfl
      · refine absurd ⟨device, rfl, ?_, not_not.mp length, ?_⟩ (inadm handle s)
        · exact Bool.eq_false_of_not_eq_true direction
        · intro pos
          rw [Option.isSome_iff_ne_none]
          rintro rfl
          exact nonnull ⟨pos, rfl⟩

/-- A call can do three things: be turned down, fail in WinUSB, succeed. -/
lemma ctrlTransfer_cases :
    ((∀ handle s, ¬ Admissible turnsDown dev setup buffer bufferLen handle s) ∧
        ctrlTransfer turnsDown dev setup buffer bufferLen bytesTransferred winusb
          = ⟨.errInvalidArg, dev, bytesTransferred.map fun _ => 0, []⟩) ∨
      ∃ handle s, Admissible turnsDown dev setup buffer bufferLen handle s ∧
        ((∃ err, winusb (transferOf handle s buffer bufferLen) = .failed err ∧
            ctrlTransfer turnsDown dev setup buffer bufferLen bytesTransferred winusb
              = ⟨.errIo, setLastError dev err, bytesTransferred.map fun _ => 0,
                  [(transferOf handle s buffer bufferLen, .failed err)]⟩) ∨
          ∃ n, winusb (transferOf handle s buffer bufferLen) = .done n ∧
            ctrlTransfer turnsDown dev setup buffer bufferLen bytesTransferred winusb
              = ⟨.ok, dev, bytesTransferred.map fun _ => n.toUInt64,
                  [(transferOf handle s buffer bufferLen, .done n)]⟩) := by
  by_cases adm : ∃ handle s, Admissible turnsDown dev setup buffer bufferLen handle s
  · obtain ⟨handle, s, adm⟩ := adm
    refine .inr ⟨handle, s, adm, ?_⟩
    cases answer : winusb (transferOf handle s buffer bufferLen) with
    | failed err => exact .inl ⟨err, rfl, by rw [ctrlTransfer_admissible adm, answer]⟩
    | done n => exact .inr ⟨n, rfl, by rw [ctrlTransfer_admissible adm, answer]⟩
  · have inadm : ∀ handle s, ¬ Admissible turnsDown dev setup buffer bufferLen handle s :=
      fun handle s h => adm ⟨handle, s, h⟩
    exact .inl ⟨inadm, ctrlTransfer_rejected inadm⟩

end
end Ks959.Device
