import Ks959.Api
import Ks959.Lib.Align

/-!
# The padded transmit length (`ks959_proto.c`)

`protoGetTxPaddedLength` on `size_t` (64 bits, wrapping) against the length the padding rule
means, `paddedLength` on natural numbers. The two agree as long as the rounding and the overhead
stay below `2 ^ 64`; in the last words of the range the sum wraps to a small number
(`toNat_padded_cases`), and `paddedLength_exact_iff` says for which limits that goes unnoticed.
-/

namespace Ks959.Tx

/-- The padding rule: round up to a multiple of 8 and add the overhead of 16. -/
def paddedLength (n : Nat) : Nat := 8 * ((n + 7) / 8) + 16

/-- `((clear_len + 7u) & ~(size_t)7u) + KS959_TX_PADDED_OVERHEAD`. -/
def padded (clearLen : UInt64) : UInt64 := ((clearLen + 7) &&& ~~~7) + txPaddedOverhead

/-- `ks959_proto_get_tx_padded_length`. -/
def protoGetTxPaddedLength (clearLen maxOutLen : UInt64) : UInt64 :=
  if clearLen = 0 then
    0
  else
    let paddedLen := padded clearLen
    if paddedLen > maxOutLen then
      0
    else
      paddedLen

variable {clearLen maxOutLen : UInt64}

/-- The mask of the C expression rounds up to a multiple of 8. -/
lemma toBitVec_align : ((clearLen + 7) &&& ~~~7).toBitVec = Align.alignUp 3 clearLen.toBitVec :=
  rfl

/-- Below the wrap the length is rounded up as numbers are. -/
lemma toNat_align (room : clearLen.toNat + 7 < 2 ^ 64) :
    ((clearLen + 7) &&& ~~~7).toNat = 8 * ((clearLen.toNat + 7) / 8) := by
  have up := Align.toNat_alignUp (k := 3) (x := clearLen.toBitVec) (by decide) room
  rw [← UInt64.toNat_toBitVec, toBitVec_align, up, Nat.mul_comm]
  rfl

/-- Below the wrap of the first sum the padded length is off by a wrap at most. -/
lemma toNat_padded_mod (room : clearLen.toNat + 7 < 2 ^ 64) :
    (padded clearLen).toNat = paddedLength clearLen.toNat % 2 ^ 64 := by
  rw [padded, UInt64.toNat_add, toNat_align room]
  rfl

/-- When already the rounding wraps, only the overhead is left. -/
lemma padded_wrap (wrap : 2 ^ 64 ≤ clearLen.toNat + 7) : padded clearLen = 16 := by
  have zero : (clearLen + 7) &&& ~~~7 = 0 := by
    rw [← UInt64.toBitVec_inj, toBitVec_align]
    exact Align.alignUp_wrap (by decide) wrap
  rw [padded, zero]
  rfl

/-- What the padded length means: the padding rule where it fits, `0` elsewhere, so that a length
    other than `0` is a multiple of 8, between 16 and 23 above the clear length, and fits. -/
def PaddedLengthExact (clearLen maxOutLen : UInt64) : Prop :=
  (protoGetTxPaddedLength clearLen maxOutLen).toNat
      = (if 1 ≤ clearLen.toNat ∧ paddedLength clearLen.toNat ≤ maxOutLen.toNat
          then paddedLength clearLen.toNat else 0) ∧
    (protoGetTxPaddedLength clearLen maxOutLen ≠ 0 →
      8 ∣ (protoGetTxPaddedLength clearLen maxOutLen).toNat ∧
        clearLen.toNat + 16 ≤ (protoGetTxPaddedLength clearLen maxOutLen).toNat ∧
        (protoGetTxPaddedLength clearLen maxOutLen).toNat < clearLen.toNat + 24 ∧
        (protoGetTxPaddedLength clearLen maxOutLen).toNat ≤ maxOutLen.toNat)

/-- The padded length that is returned, as a number. -/
lemma toNat_protoGetTxPaddedLength :
    (protoGetTxPaddedLength clearLen maxOutLen).toNat
      = if 1 ≤ clearLen.toNat ∧ (padded clearLen).toNat ≤ maxOutLen.toNat
          then (padded clearLen).toNat else 0 := by
  rw [protoGetTxPaddedLength]
  rcases eq_or_ne clearLen 0 with rfl | ne
  · rfl
  · have pos : 1 ≤ clearLen.toNat := by
      rw [Nat.one_le_iff_ne_zero]
      exact fun zero => ne (UInt64.toNat_inj.mp zero)
    rcases Nat.lt_or_ge maxOutLen.toNat (padded clearLen).toNat with beyond | fits
    · rw [if_neg ne, if_pos (UInt64.lt_iff_toNat_lt.mpr beyond),
        if_neg fun h => absurd h.2 (Nat.not_le.mpr beyond)]
      rfl
    · rw [if_neg ne, if_neg fun h => absurd (UInt64.lt_iff_toNat_lt.mp h) (Nat.not_lt.mpr fits),
        if_pos ⟨pos, fits⟩]

/-- Over the whole 64-bit range the code's sum is the padding rule, or what wrapping makes of it. -/
lemma toNat_padded_cases :
    (padded clearLen).toNat = paddedLength clearLen.toNat ∧ clearLen.toNat ≤ 2 ^ 64 - 24 ∨
      (padded clearLen).toNat = 0 ∧ 2 ^ 64 - 24 < clearLen.toNat ∧ clearLen.toNat ≤ 2 ^ 64 - 16 ∨
      (padded clearLen).toNat = 8 ∧ 2 ^ 64 - 16 < clearLen.toNat ∧ clearLen.toNat ≤ 2 ^ 64 - 8 ∨
      (padded clearLen).toNat = 16 ∧ 2 ^ 64 - 8 < clearLen.toNat := by
  have lt := clearLen.toNat_lt
  rcases Nat.lt_or_ge (clearLen.toNat + 7) (2 ^ 64) with room | wrap
  · rw [toNat_padded_mod room, paddedLength]
    omega
  · have sum : (padded clearLen).toNat = 16 := by
      rw [padded_wrap wrap]
      rfl
    omega

/-- The padded length is right exactly when the sum does not wrap, or wraps to something above the
    limit. -/
theorem paddedLength_exact_iff (clearLen maxOutLen : UInt64) :
    PaddedLengthExact clearLen maxOutLen ↔
      clearLen.toNat ≤ 2 ^ 64 - 16 ∨ maxOutLen.toNat < 8 ∨
        (2 ^ 64 - 7 ≤ clearLen.toNat ∧ maxOutLen.toNat < 16) := by
  have limit := maxOutLen.toNat_lt
  have sum := @toNat_padded_cases clearLen
  rw [PaddedLengthExact, Ne, ← UInt64.toNat_inj, toNat_protoGetTxPaddedLength, UInt64.toNat_zero]
  generalize (padded clearLen).toNat = p at sum ⊢
  unfold paddedLength at sum ⊢
  split_ifs <;> omega

/-- A clear length seven below `2 ^ 64` "fits" into 16 bytes. -/
theorem paddedLength_wraps :
    ¬ PaddedLengthExact 0xFFFFFFFFFFFFFFF9 256 ∧
      protoGetTxPaddedLength 0xFFFFFFFFFFFFFFF9 256 = 16 ∧
      ¬ paddedLength (0xFFFFFFFFFFFFFFF9 : UInt64).toNat ≤ (256 : UInt64).toNat := by
  refine ⟨?_, by decide, by decide⟩
  rw [paddedLength_exact_iff]
  decide

end Ks959.Tx
