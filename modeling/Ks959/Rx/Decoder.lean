import Ks959.Api
import Ks959.Lib.SlotCounter
import Ks959.Lib.Transducer

/-!
# The receive decoder

What the dongle's receive obfuscation means, on whole streams: the decoder is the transducer
`rxDecoder` over the session counter, and its output is given in closed form by `SlotCounter` at
the modulus 256. The counter stands at the number of bytes received so far (`final_toNat`), one
slot is dropped at each wrap (`length_output`), and the byte in the kept slot number `j` is
unmasked with the counter of its own slot (`getElem?_output`).
-/

namespace Ks959.Rx
open SlotCounter

/-- The session decoder: the counter is advanced before each byte, and the byte on which it comes
    to `0` is garbage. -/
def rxDecoder : Transducer UInt8 UInt8 UInt8 where
  next s _ := s + 1
  emit s b := if s + 1 = 0 then none else some (b ^^^ (s + 1) ^^^ 0x55)

/-- Unmask a byte received while the counter stood at `k`. -/
def unmask (k : Nat) (b : UInt8) : UInt8 := b ^^^ UInt8.ofNat (k % 256) ^^^ 0x55

/-- How many bytes a chunk of `n` bytes decodes to from the state `s`. -/
def decodedLength (s : UInt8) (n : Nat) : Nat := n - (s.toNat + n) / 256

/-- Where the decoded byte `j` of a chunk stands in the chunk. -/
def sourceIndex (s : UInt8) (j : Nat) : Nat := j + (s.toNat + j) / 255

variable {s : UInt8} {b : UInt8} {xs : List UInt8} {j : Nat}

/-- The counter goes up by one, whatever the byte. -/
lemma next_eq : rxDecoder.next s b = s + 1 := rfl

/-- The counter wraps with every 256th byte. -/
lemma succ_eq_zero_iff : s + 1 = 0 ↔ 256 ∣ s.toNat + 1 := by
  rw [← UInt8.toNat_inj, UInt8.toNat_add, UInt8.toNat_one, UInt8.toNat_zero,
    Nat.dvd_iff_mod_eq_zero]

/-- The byte on which the counter wraps is dropped. -/
lemma emit_none (e : s + 1 = 0) : rxDecoder.emit s b = none := by
  simp [rxDecoder, e]

/-- Any other byte is unmasked with the counter. -/
lemma emit_some (e : s + 1 ≠ 0) : rxDecoder.emit s b = some (b ^^^ (s + 1) ^^^ 0x55) := by
  simp [rxDecoder, e]

/-- Masking twice with the same two bytes is doing nothing. -/
lemma xor_twice (b k c : UInt8) : b ^^^ k ^^^ c ^^^ k ^^^ c = b := by
  calc b ^^^ k ^^^ c ^^^ k ^^^ c
      = b ^^^ k ^^^ k ^^^ c ^^^ c := by
        rw [UInt8.xor_assoc (b ^^^ k) c k, UInt8.xor_comm c k, ← UInt8.xor_assoc]
    _ = b := by
        rw [UInt8.xor_assoc b, UInt8.xor_self, UInt8.xor_zero, UInt8.xor_assoc, UInt8.xor_self,
          UInt8.xor_zero]

/-- A byte that has been masked for a kept slot is handed out unmasked. -/
lemma emit_masked (keep : s + 1 ≠ 0) : rxDecoder.emit s (b ^^^ (s + 1) ^^^ 0x55) = some b := by
  rw [emit_some keep, xor_twice]

/-- The counter is the number of bytes received, modulo 256. -/
lemma final_toNat : (rxDecoder.final s xs).toNat = (s.toNat + xs.length) % 256 := by
  induction xs generalizing s with
  | nil => simp
  | cons x xs ih =>
    rw [Transducer.final_cons, ih, next_eq, UInt8.toNat_add, UInt8.toNat_one, List.length_cons]
    omega

/-- The counter after a chunk, as a byte. -/
lemma final_eq : rxDecoder.final s xs = UInt8.ofNat (s.toNat + xs.length) := by
  rw [← UInt8.toNat_inj, final_toNat, UInt8.toNat_ofNat']

/-- The byte after `xs` is dropped exactly when it completes a round of 256. -/
lemma emit_final_isSome :
    (rxDecoder.emit (rxDecoder.final s xs) b).isSome ↔ ¬ 256 ∣ s.toNat + xs.length + 1 := by
  have wrap : rxDecoder.final s xs + 1 = 0 ↔ 256 ∣ s.toNat + xs.length + 1 := by
    rw [succ_eq_zero_iff, final_toNat]
    omega
  rw [← wrap]
  by_cases e : rxDecoder.final s xs + 1 = 0
  · simp [emit_none, e]
  · simp [emit_some e, e]

/-- A byte that does not complete a round of 256 is unmasked with its place in the stream. -/
lemma emit_final (keep : ¬ 256 ∣ s.toNat + xs.length + 1) :
    rxDecoder.emit (rxDecoder.final s xs) b = some (unmask (s.toNat + xs.length + 1) b) := by
  have ne : rxDecoder.final s xs + 1 ≠ 0 := by
    rw [Ne, succ_eq_zero_iff, final_toNat]
    omega
  have counter : rxDecoder.final s xs + 1 = UInt8.ofNat ((s.toNat + xs.length + 1) % 256) := by
    rw [← UInt8.toNat_inj, UInt8.toNat_add, final_toNat, UInt8.toNat_one, UInt8.toNat_ofNat']
    omega
  rw [emit_some ne, counter, unmask]

/-- A chunk decodes to as many bytes as it has kept slots. -/
lemma length_output : (rxDecoder.output s xs).length = decodedLength s xs.length := by
  have small : s.toNat < 256 := s.toNat_lt
  change _ = kept 256 s.toNat xs.length
  induction xs using List.reverseRecOn with
  | nil => simp
  | append_singleton xs x ih =>
    rw [Transducer.output_concat, List.length_append, ih, List.length_append,
      List.length_singleton]
    by_cases keep : 256 ∣ s.toNat + xs.length + 1
    · have drop : ¬ (rxDecoder.emit (rxDecoder.final s xs) x).isSome :=
        mt emit_final_isSome.mp (not_not.mpr keep)
      rw [kept_succ_of_dvd small keep]
      simpa using drop
    · rw [kept_succ_of_not_dvd small keep, emit_final keep]
      rfl

/-- The decoded byte `j` is the byte of its slot, unmasked with the counter of that slot. -/
lemma getElem?_output (lt : j < decodedLength s xs.length) :
    (rxDecoder.output s xs)[j]?
      = (xs[sourceIndex s j]?).map (unmask (s.toNat + sourceIndex s j + 1)) := by
  have small : s.toNat < 256 := s.toNat_lt
  change j < kept 256 s.toNat xs.length at lt
  change _ = (xs[slot 256 s.toNat j]?).map (unmask (s.toNat + slot 256 s.toNat j + 1))
  have len (ys : List UInt8) : (rxDecoder.output s ys).length = kept 256 s.toNat ys.length :=
    length_output
  induction xs using List.reverseRecOn with
  | nil => simp at lt
  | append_singleton xs x ih =>
    rw [List.length_append, List.length_singleton] at lt
    rw [Transducer.output_concat]
    by_cases old : j < kept 256 s.toNat xs.length
    · have inside : slot 256 s.toNat j < xs.length := (lt_kept_iff (by omega) small).mp old
      rw [List.getElem?_append_left (by rw [len]; exact old), ih old,
        List.getElem?_append_left inside]
    · by_cases keep : 256 ∣ s.toNat + xs.length + 1
      · rw [kept_succ_of_dvd small keep] at lt
        exact absurd lt old
      · rw [kept_succ_of_not_dvd small keep] at lt
        have last : j = kept 256 s.toNat xs.length := by omega
        have here : slot 256 s.toNat j = xs.length := last ▸ slot_kept small keep
        rw [List.getElem?_append_right (by rw [len]; omega), here, emit_final keep, len, ← last]
        simp

/-- No chunk decodes to more bytes than it has. -/
lemma decodedLength_le (s : UInt8) (n : Nat) : decodedLength s n ≤ n := kept_le

end Ks959.Rx
