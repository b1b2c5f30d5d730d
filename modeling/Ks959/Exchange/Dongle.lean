import Ks959.Device.Ctrl
import Ks959.Rx.Decoder
import Ks959.Speed
import Ks959.Tx.Transaction

/-!
# The dongle (`docs/ks959-protocol-model.md`)

The other end of the control pipe, as the protocol model of the repository describes it: what the
dongle does with a byte that comes in over the air (`hear`), with a receive request (`serve`) and
with a transfer that is sent to it (`accept`). None of it is code of the repository; it says what
the library's transfers are for.

`hear_decodes` is the receive half of the protocol: a decoder in step with the dongle decodes the
bytes heard, the slots at the wrap of the counter left out. `accept_fragment` and `accept_speed`
are the transmit half.
-/

namespace Ks959.Exchange
open ByteOrder Device Rx

/-- What a transfer asks of the dongle. -/
inductive Message where
  | fragment (bytes : List UInt8)
  | speed (baudrate : UInt32) (flags : UInt8)
deriving DecidableEq, Repr

/-- The dongle: its byte counter, the obfuscated bytes it holds for the host, and the messages it
    has received. -/
structure Dongle where
  counter : UInt8
  line : List UInt8
  received : List Message
deriving DecidableEq, Repr

namespace Dongle

/-- The dongle when it has heard nothing and received nothing. -/
def fresh : Dongle := ⟨0, [], []⟩

/-- A byte comes in over the air. `garbage` is what the dongle puts in the slot at which the counter
    wraps. -/
def hear (d : Dongle) (garbage byte : UInt8) : Dongle :=
  let counter := d.counter + 1
  if counter = 0 then
    -- no data in this slot, the byte goes into the next one
    { d with
      counter := counter + 1
      line := d.line ++ [garbage, byte ^^^ (counter + 1) ^^^ 0x55] }
  else
    { d with
      counter := counter
      line := d.line ++ [byte ^^^ counter ^^^ 0x55] }

/-- Hand out the next `n` bytes, if there are so many and the request asks for them. -/
def serve (d : Dongle) (packet : WinusbSetupPacket) (n : Nat) : Option (List UInt8 × Dongle) :=
  if n ≤ d.line.length ∧ n ≤ packet.length.toNat then
    some (d.line.take n, { d with line := d.line.drop n })
  else
    none

/-- A transfer to the dongle comes in. -/
def accept (d : Dongle) (packet : WinusbSetupPacket) (payload : List UInt8) : Dongle :=
  if packet.requestType = reqtypeOutClassIface ∧ packet.request = reqSend then
    if packet.index = speedWindex then
      { d with
        received := d.received ++
          [.speed (UInt32.ofNat (ofLittle (payload.take 4))) (payload.getD 4 0)] }
    else
      { d with received := d.received ++ [.fragment (Tx.recover packet.value payload)] }
  else
    d

variable {d d' : Dongle} {s : UInt8} {garbage byte : UInt8} {bytes : List UInt8} {n : Nat}
  {packet : WinusbSetupPacket}

/-- A decoder in step with the dongle decodes the byte that comes in, and stays in step. -/
lemma hear_decodes (step : rxDecoder.final s d.line = d.counter) :
    rxDecoder.output s (d.hear garbage byte).line = rxDecoder.output s d.line ++ [byte] ∧
      rxDecoder.final s (d.hear garbage byte).line = (d.hear garbage byte).counter := by
  by_cases wrap : d.counter + 1 = 0
  · have next : d.counter + 1 + 1 ≠ 0 := by
      rw [wrap]
      decide
    have slot : rxDecoder.output d.counter
        [garbage, byte ^^^ (d.counter + 1 + 1) ^^^ 0x55] = [byte] := by
      rw [Transducer.output_cons, emit_none wrap, next_eq, Transducer.output_cons, emit_masked next]
      rfl
    rw [hear, if_pos wrap, Transducer.output_append, Transducer.final_append, step, slot]
    exact ⟨rfl, rfl⟩
  · rw [hear, if_neg wrap, Transducer.output_append, Transducer.final_append, step,
      Transducer.output_cons, emit_masked wrap]
    exact ⟨rfl, rfl⟩

/-- The counter counts the slots on the line. -/
lemma hear_counter (s : Nat) (counted : d.counter.toNat = (s + d.line.length) % 256) :
    (d.hear garbage byte).counter.toNat = (s + (d.hear garbage byte).line.length) % 256 := by
  have next : (d.counter + 1).toNat = (s + d.line.length + 1) % 256 := by
    rw [UInt8.toNat_add, counted]
    exact Nat.mod_add_mod _ _ _
  by_cases wrap : d.counter + 1 = 0
  · rw [hear, if_pos wrap, List.length_append, UInt8.toNat_add, next]
    exact Nat.mod_add_mod _ _ _
  · rw [hear, if_neg wrap, List.length_append, next]
    rfl

/-- A byte over the air is no message of the host. -/
lemma hear_received : (d.hear garbage byte).received = d.received := by
  by_cases wrap : d.counter + 1 = 0
  · rw [hear, if_pos wrap]
  · rw [hear, if_neg wrap]

/-- The bytes handed out are the first of the line, as many as asked for, and the rest stays. -/
lemma serve_inv (served : d.serve packet n = some (bytes, d')) :
    n ≤ packet.length.toNat ∧ bytes.length = n ∧ d.line = bytes ++ d'.line ∧
      d'.counter = d.counter ∧ d'.received = d.received := by
  unfold serve at served
  split_ifs at served with room
  cases served
  exact ⟨room.2, List.length_take_of_le room.1, (List.take_append_drop n d.line).symm, rfl, rfl⟩

/-- The transfer for a fragment is received as the fragment. -/
lemma accept_fragment {value length : UInt16} (len : value.toNat = bytes.length) :
    d.accept ⟨reqtypeOutClassIface, reqSend, value, 0, length⟩ (Tx.encode bytes)
      = { d with received := d.received ++ [.fragment bytes] } := by
  rw [accept, if_pos ⟨rfl, rfl⟩, if_neg (show ¬ (0 : UInt16) = speedWindex by decide),
    Tx.recover_encode len]

/-- The transfer for a speed is received as the speed. -/
lemma accept_speed (baudrate : UInt32) (flags : UInt8) {value length : UInt16} :
    d.accept ⟨reqtypeOutClassIface, reqSend, value, speedWindex, length⟩
        (littleBytes 4 baudrate.toNat ++ [flags, 0, 0, 0])
      = { d with received := d.received ++ [.speed baudrate flags] } := by
  have rate : ofLittle ((littleBytes 4 baudrate.toNat ++ [flags, 0, 0, 0]).take 4)
      = baudrate.toNat := by
    rw [List.take_left' length_littleBytes]
    exact ofLittle_littleBytes baudrate.toNat_lt
  have flag : (littleBytes 4 baudrate.toNat ++ [flags, 0, 0, 0]).getD 4 0 = flags := by
    rw [List.getD_append_right _ _ _ _ (Nat.le_of_eq length_littleBytes), length_littleBytes]
    rfl
  rw [accept, if_pos ⟨rfl, rfl⟩, if_pos rfl, rate, flag, UInt32.ofNat_toNat]

end Dongle
end Ks959.Exchange
