import Ks959.Device.Bookkeeping
import Ks959.Rx.Session
import Ks959.Speed
import Ks959.Tx.Layout
import Ks959.Tx.Transaction

/-!
# The calls of a host (`docs/ks959-protocol-model.md`)

What a program that uses the library does to receive, to send a fragment and to set the speed: the
library's builders, its encoder and its control transfers, put together the way their signatures
and the protocol model ask for. A buffer is given to WinUSB by its contents, in the order of a
little-endian machine.

On a device with an open interface each of the three hands exactly one transfer on, the documented
one (`poll_eq`, `sendFragment_accepted`, `configure_eq`); only a fragment that is empty or does not
fit the packet is turned down, before any transfer (`sendFragment_rejected`).
-/

namespace Ks959.Exchange
open ByteOrder Device Tx

/-- A transfer with the contents of its buffer. -/
abbrev Transfer := ControlTransfer (List UInt8)

/-- How WinUSB answers the transfers it is given. -/
abbrev Winusb := Transfer → TransferOutcome

/-- What is sent at a time, an object of the C program. -/
abbrev Fragment := { bytes : List UInt8 // bytes.length ≤ (2 ^ 64 - 1) / 2 }

/-- Ask for the bytes received, with room for all that the dongle can hold. -/
def poll (dev : Option Ks959Device) (winusb : Winusb) : CtrlReturn (List UInt8) :=
  ctrlRead dev (protoBuildRxSetup (some zeroSetup)) (some (List.replicate 2048 0)) 2048 (some 0)
    winusb

/-- The call that obfuscates a fragment into a packet of 256 bytes. -/
def obfuscation (f : Fragment) : TxCall Bool where
  mem p := if p then List.replicate 256 0 else f.1
  clearBuf := false
  clearLen := UInt64.ofNat f.1.length
  outBuf := true
  outBufSize := sndPacketSize
  outLen := 0
  clearBuf_holds := Nat.mod_le _ _
  clearLen_real := Nat.le_trans (Nat.mod_le _ _) f.2
  outBuf_holds := Nat.le_of_eq List.length_replicate.symm
  apart := Bool.false_ne_true

/-- Obfuscate a fragment, build its setup packet, send it. -/
def sendFragment (dev : Option Ks959Device) (f : Fragment) (winusb : Winusb) :
    Option (CtrlReturn (List UInt8)) := do
  let r ← (obfuscation f).run
  match r.status, r.outLen with
  | .ok, some outLen =>
    let setup ← protoBuildTxSetup (some zeroSetup) (obfuscation f).clearLen.toUInt16
      outLen.toUInt16
    some (ctrlWrite dev (some setup) (some ((r.mem true).take outLen.toNat)) outLen (some 0) winusb)
  | status, _ => some ⟨status, dev, some 0, []⟩

/-- Fill in the speed parameters, build their setup packet, send them. -/
def configure (dev : Option Ks959Device) (baudrate : UInt32) (flags : UInt8) (winusb : Winusb) :
    Option (CtrlReturn (List UInt8)) := do
  let params ← protoFillSpeedParams (some ⟨0, 0, .replicate 3 0⟩) baudrate flags
  some (ctrlWrite dev (protoBuildSpeedSetup (some zeroSetup)) (some (params.image .little))
    speedParamsSize.toUInt64 (some 0) winusb)

/-- What a call returns that hands the transfer `t` on. -/
def handedOn (d : Ks959Device) (t : Transfer) (winusb : Winusb) : CtrlReturn (List UInt8) :=
  match winusb t with
  | .failed err => ⟨.errIo, some { d with lastOsError := err }, some 0, [(t, .failed err)]⟩
  | .done n => ⟨.ok, some d, some n.toUInt64, [(t, .done n)]⟩

/-- The transfer that asks for received bytes. -/
def pollTransfer (winusb : Nat) : Transfer :=
  ⟨winusb, ⟨reqtypeInClassIface, reqRecv, rxWvalue, rxWindex, rcvFifoSize⟩,
    some (List.replicate 2048 0), 2048⟩

/-- The transfer that sends a fragment. -/
def fragmentTransfer (winusb : Nat) (bytes : List UInt8) : Transfer :=
  ⟨winusb, ⟨reqtypeOutClassIface, reqSend, UInt16.ofNat bytes.length, 0,
    UInt16.ofNat (paddedLength bytes.length)⟩, some (encode bytes),
    UInt32.ofNat (paddedLength bytes.length)⟩

/-- The transfer that sets the speed. -/
def speedTransfer (winusb : Nat) (baudrate : UInt32) (flags : UInt8) : Transfer :=
  ⟨winusb, ⟨reqtypeOutClassIface, reqSend, speedWvalue, speedWindex, speedParamsSize⟩,
    some (littleBytes 4 baudrate.toNat ++ [flags, 0, 0, 0]), 8⟩

/-- The fragments that a packet takes. -/
def Sendable (bytes : List UInt8) : Prop := 1 ≤ bytes.length ∧ bytes.length ≤ 240

instance (bytes : List UInt8) : Decidable (Sendable bytes) := inferInstanceAs (Decidable (_ ∧ _))

variable {d : Ks959Device} {handle : Nat} {f : Fragment} {winusb : Winusb} {s : SetupPacket}
  {bytes : List UInt8} {len : UInt64}

/-- One transfer is issued. -/
lemma handedOn_issued {t : Transfer} : (handedOn d t winusb).issued = [(t, winusb t)] := by
  unfold handedOn
  cases winusb t <;> rfl

/-- The error of the transfer goes to the device, and nothing else changes. -/
lemma handedOn_dev {t : Transfer} :
    (handedOn d t winusb).dev
      = some { d with lastOsError := latestError d.lastOsError [(t, winusb t)] } := by
  unfold handedOn
  cases winusb t <;> rfl

/-- A transfer ends well or with `KS959_ERR_IO`. -/
lemma handedOn_status {t : Transfer} :
    (handedOn d t winusb).status = .ok ∨ (handedOn d t winusb).status = .errIo := by
  unfold handedOn
  cases winusb t with
  | failed err => exact .inr rfl
  | done n => exact .inl rfl

/-- A control transfer with admissible arguments is handed on. -/
lemma ctrlTransfer_handedOn {turnsDown : UInt8 → Bool}
    (adm : Admissible turnsDown (some d) (some s) (some bytes) len handle s) :
    ctrlTransfer turnsDown (some d) (some s) (some bytes) len (some 0) winusb
      = handedOn d (transferOf handle s (some bytes) len) winusb := by
  rw [ctrlTransfer_admissible adm, handedOn]
  cases winusb (transferOf handle s (some bytes) len) <;> rfl

/-- A read whose arguments pass the checks is handed on. -/
lemma ctrlRead_handedOn (bound : d.winusbHandle = some handle)
    (direction : (s.requestType &&& 0x80 == 0) = false) (same : s.length = len.toUInt16) :
    ctrlRead (some d) (some s) (some bytes) len (some 0) winusb
      = handedOn d (transferOf handle s (some bytes) len) winusb :=
  ctrlTransfer_handedOn ⟨bound, rfl, direction, same, fun _ => rfl⟩

/-- A write whose arguments pass the checks is handed on. -/
lemma ctrlWrite_handedOn (bound : d.winusbHandle = some handle)
    (direction : (s.requestType &&& 0x80 != 0) = false) (same : s.length = len.toUInt16) :
    ctrlWrite (some d) (some s) (some bytes) len (some 0) winusb
      = handedOn d (transferOf handle s (some bytes) len) winusb :=
  ctrlTransfer_handedOn ⟨bound, rfl, direction, same, fun _ => rfl⟩

/-- The request type of what is sent has the direction bit clear. -/
lemma sends_out : (reqtypeOutClassIface &&& 0x80 != 0) = false := by decide

/-- A poll is handed on. -/
lemma poll_eq (bound : d.winusbHandle = some handle) :
    poll (some d) winusb = handedOn d (pollTransfer handle) winusb :=
  ctrlRead_handedOn bound rfl rfl

/-- The length that is passed for a fragment is its own. -/
lemma toNat_clearLen (f : Fragment) : (obfuscation f).clearLen.toNat = f.1.length := by
  have lt : f.1.length < 2 ^ 64 := Nat.lt_of_le_of_lt f.2 (by decide)
  exact Nat.mod_eq_of_lt lt

/-- The fragment that is obfuscated is the one to be sent. -/
lemma fragment_obfuscation (f : Fragment) : (obfuscation f).fragment = f.1 := by
  have whole : f.1.take (obfuscation f).clearLen.toNat = f.1 := by
    rw [toNat_clearLen, List.take_length]
  exact whole

/-- The obfuscation takes exactly the fragments that can be sent. -/
lemma accepted_iff : (obfuscation f).Accepted ↔ Sendable f.1 := by
  rw [TxCall.accepted_packet rfl, toNat_clearLen]
  rfl

/-- A fragment that is turned down is not sent. -/
lemma sendFragment_rejected (rejected : ¬ Sendable f.1) :
    sendFragment (some d) f winusb = some ⟨.errBufferTooSmall, some d, some 0, []⟩ := by
  rw [sendFragment, TxCall.run_of_rejected (mt accepted_iff.mp rejected)]
  rfl

/-- A fragment that fits is sent in one transfer. -/
lemma sendFragment_accepted (bound : d.winusbHandle = some handle) (sendable : Sendable f.1) :
    sendFragment (some d) f winusb
      = some (handedOn d (fragmentTransfer handle f.1) winusb) := by
  obtain ⟨outLen, len, run⟩ := TxCall.run_of_accepted (accepted_iff.mpr sendable)
  rw [toNat_clearLen] at len
  rw [fragment_obfuscation] at run
  have payload : (((obfuscation f).mem.splice true (encode f.1)) true).take outLen.toNat
      = encode f.1 := by
    rw [len, ← length_encode, CMemory.Mem.take_splice]
  have value : (obfuscation f).clearLen.toUInt16 = UInt16.ofNat f.1.length := by
    rw [← UInt16.toNat_inj, UInt64.toNat_toUInt16, toNat_clearLen, UInt16.toNat_ofNat']
  have length : outLen.toUInt16 = UInt16.ofNat (paddedLength f.1.length) := by
    rw [← UInt16.toNat_inj, UInt64.toNat_toUInt16, len, UInt16.toNat_ofNat']
  have length32 : outLen.toUInt32 = UInt32.ofNat (paddedLength f.1.length) := by
    rw [← UInt32.toNat_inj, UInt64.toNat_toUInt32, len, UInt32.toNat_ofNat']
  rw [sendFragment, run]
  change some (ctrlWrite _ _ (some ((((obfuscation f).mem.splice true (encode f.1)) true).take
    outLen.toNat)) _ _ _) = _
  rw [payload]
  refine congrArg some ((ctrlWrite_handedOn bound sends_out rfl).trans ?_)
  rw [transferOf, fillPacket, value, length, length32, fragmentTransfer]

/-- A speed change is handed on. -/
lemma configure_eq (bound : d.winusbHandle = some handle) (baudrate : UInt32) (flags : UInt8) :
    configure (some d) baudrate flags winusb
      = some (handedOn d (speedTransfer handle baudrate flags) winusb) :=
  congrArg some (ctrlWrite_handedOn bound sends_out rfl)

end Ks959.Exchange
