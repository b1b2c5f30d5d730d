import Mathlib

/-!
# Aligning machine words

`x &&& ~~~(2 ^ k - 1)` clears the low `k` bits of a word, which is rounding down to a multiple
of `2 ^ k`; adding `2 ^ k - 1` first rounds up. `toNat_alignDown` and `toNat_alignUp` are the two
on natural numbers, the second only where the addition does not wrap; `alignUp_wrap` is the value
where it does. `isLeast_roundUp` says what rounding up is for.
-/

namespace Align

variable {w : Nat}

/-- The word whose low `k` bits are set. -/
def lowMask (w k : Nat) : BitVec w := BitVec.ofNat w (2 ^ k - 1)

/-- Clear the low `k` bits. -/
def alignDown (k : Nat) (x : BitVec w) : BitVec w := x &&& ~~~(lowMask w k)

/-- Round up to a multiple of `2 ^ k`, modulo `2 ^ w`. -/
def alignUp (k : Nat) (x : BitVec w) : BitVec w := alignDown k (x + lowMask w k)

variable {k : Nat} {x : BitVec w}

/-- The value of the low mask. -/
lemma toNat_lowMask (le : k ≤ w) : (lowMask w k).toNat = 2 ^ k - 1 := by
  have pow : 2 ^ k ≤ 2 ^ w := Nat.pow_le_pow_right (by omega) le
  have pos : 0 < 2 ^ k := Nat.two_pow_pos k
  rw [lowMask, BitVec.toNat_ofNat, Nat.mod_eq_of_lt (by omega)]

/-- The bits of the low mask. -/
lemma getElem_lowMask {i : Nat} (lt : i < w) : (lowMask w k)[i] = decide (i < k) := by
  rw [← BitVec.getLsbD_eq_getElem, lowMask, BitVec.getLsbD_ofNat, Nat.testBit_two_pow_sub_one]
  simp [lt]

/-- Clearing the low bits is shifting them out and zeros in. -/
lemma alignDown_eq_shift : alignDown k x = (x >>> k) <<< k := by
  ext i lt
  by_cases low : i < k
  · simp [alignDown, getElem_lowMask, low]
  · simp [alignDown, getElem_lowMask, low, Nat.add_sub_cancel' (Nat.le_of_not_lt low),
      BitVec.getLsbD_eq_getElem lt]

/-- Rounding down on natural numbers. -/
lemma toNat_alignDown : (alignDown k x).toNat = x.toNat / 2 ^ k * 2 ^ k := by
  rw [alignDown_eq_shift, BitVec.toNat_shiftLeft, BitVec.toNat_ushiftRight,
    Nat.shiftRight_eq_div_pow, Nat.shiftLeft_eq, Nat.mod_eq_of_lt]
  exact Nat.lt_of_le_of_lt (Nat.div_mul_le_self _ _) x.isLt

/-- Rounding up on natural numbers, as long as the addition stays in the word. -/
lemma toNat_alignUp (le : k ≤ w) (room : x.toNat + (2 ^ k - 1) < 2 ^ w) :
    (alignUp k x).toNat = (x.toNat + (2 ^ k - 1)) / 2 ^ k * 2 ^ k := by
  rw [alignUp, toNat_alignDown, BitVec.toNat_add, toNat_lowMask le, Nat.mod_eq_of_lt room]

/-- Past the end of the word the addition wraps and rounding up gives `0`. -/
lemma alignUp_wrap (le : k ≤ w) (wrap : 2 ^ w ≤ x.toNat + (2 ^ k - 1)) : alignUp k x = 0 := by
  have pos : 0 < 2 ^ k := Nat.two_pow_pos k
  have pow : 2 ^ k ≤ 2 ^ w := Nat.pow_le_pow_right (by omega) le
  have lt := x.isLt
  apply BitVec.eq_of_toNat_eq
  rw [alignUp, toNat_alignDown, BitVec.toNat_add, toNat_lowMask le,
    Nat.mod_eq_sub_mod wrap, Nat.mod_eq_of_lt (by omega), Nat.div_eq_of_lt (by omega)]
  simp

/-- Rounding up gives the least multiple that is large enough. -/
lemma isLeast_roundUp {d : Nat} (pos : 0 < d) (n : Nat) :
    IsLeast {m | d ∣ m ∧ n ≤ m} (d * ((n + (d - 1)) / d)) := by
  constructor
  · refine ⟨Nat.dvd_mul_right _ _, ?_⟩
    have split := Nat.div_add_mod (n + (d - 1)) d
    have rem := Nat.mod_lt (n + (d - 1)) pos
    omega
  · rintro _ ⟨⟨q, rfl⟩, le⟩
    apply Nat.mul_le_mul_left
    rw [Nat.div_le_iff_le_mul_add_pred pos]
    omega

end Align
