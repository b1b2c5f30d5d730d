import Ks959.Device.Ctrl
import Ks959.Setup
import Ks959.Tx.Proto

/-!
# A transmit transaction

What a caller does to send one fragment: obfuscate it, build the setup packet from the clear and
the padded length, hand both to `ctrlWrite`. `tx_transaction_recoverable` says that the three fit
together for the 256-byte packet, and that the fragment can be read back from the setup packet and
the payload: the clear length travels in `wValue`, and the mask is a function of it.
-/

namespace Ks959.Tx
open CMemory Ks959.Device

variable {ι κ : Type} [DecidableEq ι] [DecidableEq κ]

/-- What is sent for a fragment. -/
structure Transaction where
  setup : SetupPacket
  outLen : UInt64
  payload : List UInt8

/-- The transaction for an accepted fragment. -/
def TxCall.sent (c : TxCall ι) : Option Transaction := do
  let r ← c.run
  match r.status, r.outLen with
  | .ok, some outLen =>
    let setup ← protoBuildTxSetup (some zeroSetup) c.clearLen.toUInt16 outLen.toUInt16
    some ⟨setup, outLen, (r.mem c.outBuf).take outLen.toNat⟩
  | _, _ => none

/-- Read a fragment back: unmask the first `value` bytes with the mask that `value` selects. -/
def recover (value : UInt16) (payload : List UInt8) : List UInt8 :=
  (payload.take value.toNat).map
    (· ^^^ (lookupString.getD ((value &&& 15) ^^^ 6).toNat 0 ^^^ 0x55))

/-- The receiver computes the index of the mask from `wValue`. -/
lemma value_index (value : UInt16) : ((value &&& 15) ^^^ 6).toNat = value.toNat % 16 ^^^ 6 := by
  rw [UInt16.toNat_xor, UInt16.toNat_and]
  exact congrArg (· ^^^ 6) (Nat.and_two_pow_sub_one_eq_mod value.toNat 4)

/-- Unmasking undoes `encode`. -/
lemma recover_encode {value : UInt16} {fragment : List UInt8}
    (len : value.toNat = fragment.length) : recover value (encode fragment) = fragment := by
  have prefixed : (encode fragment).take fragment.length
      = fragment.map (· ^^^ mask fragment.length) := by
    rw [encode, List.take_left' (List.length_map _)]
  rw [recover, value_index, len, prefixed, List.map_map, mask]
  conv_rhs => rw [← List.map_id fragment]
  congr 1
  funext b
  rw [Function.comp_apply, UInt8.xor_assoc, UInt8.xor_self, UInt8.xor_zero, id]

/-- Behind the fragment there are zeros. -/
lemma drop_encode (fragment : List UInt8) :
    (encode fragment).drop fragment.length
      = List.replicate (paddedLength fragment.length - fragment.length) 0 := by
  rw [encode, List.drop_left' (List.length_map _)]

/-- A packet of 256 bytes holds a fragment of 240 at most. -/
lemma paddedLength_fits {n : Nat} (fits : paddedLength n ≤ 256) : n ≤ 240 := by
  unfold paddedLength at fits
  omega

/-- The padding adds 16 bytes at least. -/
lemma le_paddedLength (n : Nat) : n + 16 ≤ paddedLength n := by
  unfold paddedLength
  omega

/-- What is sent for a fragment is its encoding, under its own and the padded length. -/
lemma sent_inv {c : TxCall ι} {x : Transaction} (size : c.outBufSize = sndPacketSize)
    (sent : c.sent = some x) :
    c.clearLen.toNat ≤ 240 ∧ x.outLen.toNat = paddedLength c.clearLen.toNat ∧
      paddedLength c.clearLen.toNat ≤ 256 ∧
      x.setup = ⟨reqtypeOutClassIface, reqSend, c.clearLen.toUInt16, 0, x.outLen.toUInt16⟩ ∧
      x.payload = encode c.fragment := by
  rw [TxCall.sent] at sent
  by_cases accepted : c.Accepted
  · obtain ⟨paddedLen, len, run⟩ := TxCall.run_of_accepted accepted
    have fits : paddedLength c.clearLen.toNat ≤ 256 := by
      have room := accepted.2
      rwa [size] at room
    simp only [run, protoBuildTxSetup, buildSetup_some, Option.bind_eq_bind, Option.bind_some]
      at sent
    cases sent
    refine ⟨paddedLength_fits fits, len, fits, rfl, ?_⟩
    have full : (encode c.fragment).length = paddedLen.toNat := by
      rw [length_encode, TxCall.length_fragment, len]
    rw [← full, Mem.take_splice]
  · rw [TxCall.run_of_rejected accepted] at sent
    cases sent

/-- A fragment that is accepted is sent. -/
lemma sent_of_accepted {c : TxCall ι} (accepted : c.Accepted) : ∃ x, c.sent = some x := by
  obtain ⟨paddedLen, _, run⟩ := TxCall.run_of_accepted accepted
  rw [TxCall.sent, run]
  exact ⟨_, rfl⟩

/-- A transmit transaction is well formed, passes the checks of `ctrlWrite` as it is, and
    determines its fragment. -/
theorem tx_transaction_recoverable (c : TxCall ι) (size : c.outBufSize = sndPacketSize)
    (x : Transaction) (sent : c.sent = some x) :
    (x.setup.value.toNat = c.clearLen.toNat ∧ x.setup.length.toNat = x.outLen.toNat) ∧
    (c.clearLen.toNat + 16 ≤ x.setup.length.toNat ∧ x.setup.length.toNat ≤ 256 ∧
      x.payload.length = x.outLen.toNat) ∧
    (∀ (dev : Ks959Device) (handle : Nat) (bytesTransferred : Option UInt64)
        (winusb : ControlTransfer ι → TransferOutcome), dev.winusbHandle = some handle →
      let t : ControlTransfer ι := ⟨handle, ⟨x.setup.requestType, x.setup.request, x.setup.value,
        x.setup.index, x.setup.length⟩, some c.outBuf, x.outLen.toUInt32⟩
      let r := ctrlWrite (some dev) (some x.setup) (some c.outBuf) x.outLen bytesTransferred winusb
      r.status ≠ .errInvalidArg ∧ r.issued = [(t, winusb t)] ∧
        t.bufferLength.toNat = x.outLen.toNat) ∧
    recover x.setup.value x.payload = c.fragment ∧
    (∀ b ∈ x.payload.drop x.setup.value.toNat, b = 0) ∧
    ∀ (c' : TxCall κ) (y : Transaction), c'.outBufSize = sndPacketSize → c'.sent = some y →
      y.setup = x.setup → y.payload = x.payload → c'.fragment = c.fragment := by
  obtain ⟨short, outLen, fits, setup, payload⟩ := sent_inv size sent
  have pad := le_paddedLength c.clearLen.toNat
  have value : x.setup.value.toNat = c.clearLen.toNat := by
    rw [setup, UInt64.toNat_toUInt16]
    omega
  have length : x.setup.length.toNat = x.outLen.toNat := by
    rw [setup, UInt64.toNat_toUInt16]
    omega
  have fragment : x.setup.value.toNat = c.fragment.length := by
    rw [value, TxCall.length_fragment]
  refine ⟨⟨value, length⟩, ⟨by omega, by omega, ?_⟩, ?_, ?_, ?_, ?_⟩
  · rw [payload, length_encode, TxCall.length_fragment, outLen]
  · intro dev handle bytesTransferred winusb opened
    have adm : Admissible (fun requestType => requestType &&& 0x80 != 0) (some dev)
        (some x.setup) (some c.outBuf) x.outLen handle x.setup := by
      refine ⟨opened, rfl, ?_, ?_, fun _ => rfl⟩
      · have out : (reqtypeOutClassIface &&& 0x80 != 0) = false := by decide
        rw [setup]
        exact out
      · rw [setup]
    have narrow : x.outLen.toUInt32.toNat = x.outLen.toNat := by
      rw [UInt64.toNat_toUInt32]
      omega
    simp only [ctrlWrite]
    rw [ctrlTransfer_admissible adm]
    cases answer : winusb (transferOf handle x.setup (some c.outBuf) x.outLen) with
    | done n => exact ⟨nofun, congrArg (fun a => [(_, a)]) answer.symm, narrow⟩
    | failed err => exact ⟨nofun, congrArg (fun a => [(_, a)]) answer.symm, narrow⟩
  · rw [payload]
    exact recover_encode fragment
  · rw [payload, fragment, drop_encode]
    exact fun b mem => List.eq_of_mem_replicate mem
  · intro c' y size' sent' sameSetup samePayload
    obtain ⟨short', _, _, setup', payload'⟩ := sent_inv size' sent'
    have value' : y.setup.value.toNat = c'.fragment.length := by
      rw [setup', UInt64.toNat_toUInt16, TxCall.length_fragment]
      omega
    calc c'.fragment
        = recover y.setup.value y.payload := by rw [payload', recover_encode value']
      _ = recover x.setup.value x.payload := by rw [sameSetup, samePayload]
      _ = c.fragment := by rw [payload, recover_encode fragment]

/-- The escape byte `1B` as a fragment, over a packet buffer of `AA`s. -/
theorem tx_transaction_escape :
    ∃ (c : TxCall Bool) (x : Transaction), c.fragment = [0x1B] ∧ c.sent = some x ∧
      recover x.setup.value x.payload = c.fragment := by
  let c : TxCall Bool :=
    { mem := fun p => if p then List.replicate 256 0xAA else [0x1B]
      clearBuf := false, clearLen := 1, outBuf := true, outBufSize := sndPacketSize, outLen := 0
      clearBuf_holds := le_rfl, clearLen_real := by decide
      outBuf_holds := by rw [if_pos rfl, List.length_replicate]; decide
      apart := nofun }
  have accepted : c.Accepted := by
    unfold TxCall.Accepted
    decide
  obtain ⟨x, sent⟩ := sent_of_accepted accepted
  have all := tx_transaction_recoverable (κ := Bool) c rfl x sent
  exact ⟨c, x, rfl, sent, all.2.2.2.1⟩

end Ks959.Tx
