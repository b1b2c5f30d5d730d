import Mathlib

/-!
# Counters that drop a slot at every wrap

A counter modulo `N` stands at `s` and is advanced before each slot of a stream; the slot on which
it comes to `0` is dropped, every other one is kept. `kept N s n` is the number of slots kept among
the first `n`, `slot N s j` the position of the kept slot number `j`. The two are inverse to each
other on the kept slots (`slot_kept`, `kept_slot`), and `lt_kept_iff` says which count of slots
is needed to see the kept slot number `j`.
-/

namespace SlotCounter

/-- How many of the first `n` slots are kept. -/
def kept (N s n : Nat) : Nat := n - (s + n) / N

/-- The position of the kept slot number `j`. -/
def slot (N s j : Nat) : Nat := j + (s + j) / (N - 1)

variable {N s n j : Nat}

/-- Of no slots none is kept. -/
@[simp] lemma kept_zero : kept N s 0 = 0 := by
  simp [kept]

/-- There are no more wraps than slots. -/
lemma wraps_le (lt : s < N) : (s + n) / N ≤ n := by
  have pos : 0 < N := by omega
  rw [Nat.div_le_iff_le_mul_add_pred pos]
  have le : n ≤ N * n := Nat.le_mul_of_pos_left n pos
  omega

/-- Every slot is kept or at a wrap. -/
lemma kept_add_wraps (lt : s < N) : kept N s n + (s + n) / N = n :=
  Nat.sub_add_cancel (wraps_le lt)

/-- The counter comes to `0` on slot `n`: it is dropped. -/
lemma kept_succ_of_dvd (lt : s < N) (dvd : N ∣ s + n + 1) : kept N s (n + 1) = kept N s n := by
  have le := wraps_le (n := n) lt
  rw [kept, ← Nat.add_assoc, Nat.succ_div, if_pos dvd, kept]
  omega

/-- Every other slot is kept. -/
lemma kept_succ_of_not_dvd (lt : s < N) (ndvd : ¬ N ∣ s + n + 1) :
    kept N s (n + 1) = kept N s n + 1 := by
  have le := wraps_le (n := n) lt
  rw [kept, ← Nat.add_assoc, Nat.succ_div, if_neg ndvd, kept]
  omega

/-- No more slots are kept than there are. -/
lemma kept_le : kept N s n ≤ n := Nat.sub_le _ _

/-- One more slot does not keep fewer. -/
lemma kept_mono_succ (lt : s < N) : kept N s n ≤ kept N s (n + 1) := by
  by_cases dvd : N ∣ s + n + 1
  · exact (kept_succ_of_dvd lt dvd).ge
  · rw [kept_succ_of_not_dvd lt dvd]; omega

/-- More slots do not keep fewer. -/
lemma kept_mono (lt : s < N) : Monotone (kept N s) :=
  monotone_nat_of_le_succ fun _ => kept_mono_succ lt

/-- The kept slot number `kept N s n` is slot `n`, when `n` is kept. -/
lemma slot_kept (lt : s < N) (ndvd : ¬ N ∣ s + n + 1) : slot N s (kept N s n) = n := by
  have sum := kept_add_wraps (n := n) lt
  have split := Nat.div_add_mod (s + n) N
  have rem : (s + n) % N < N - 1 := by
    have := Nat.mod_lt (s + n) (show 0 < N by omega)
    by_contra ge
    have last : (s + n) % N + 1 = N := by omega
    exact ndvd ⟨(s + n) / N + 1, by rw [Nat.mul_add_one]; omega⟩
  have quot : s + kept N s n = (N - 1) * ((s + n) / N) + (s + n) % N := by
    obtain ⟨M, rfl⟩ : ∃ M, N = M + 1 := ⟨N - 1, by omega⟩
    rw [Nat.add_one_mul] at split
    rw [Nat.add_sub_cancel]
    omega
  rw [slot, quot, Nat.mul_add_div (by omega), Nat.div_eq_of_lt rem, Nat.add_zero]
  exact sum

/-- Where the counter stands on the kept slot number `j`. -/
lemma slot_counter (two : 2 ≤ N) :
    s + slot N s j = N * ((s + j) / (N - 1)) + (s + j) % (N - 1) := by
  have split := Nat.div_add_mod (s + j) (N - 1)
  obtain ⟨M, rfl⟩ : ∃ M, N = M + 1 := ⟨N - 1, by omega⟩
  rw [Nat.add_sub_cancel] at split ⊢
  rw [slot, Nat.add_sub_cancel, Nat.add_one_mul]
  omega

/-- The slot found by `slot` is a kept one. -/
lemma slot_not_dvd (two : 2 ≤ N) : ¬ N ∣ s + slot N s j + 1 := by
  have rem := Nat.mod_lt (s + j) (show 0 < N - 1 by omega)
  rw [slot_counter two, Nat.add_assoc, Nat.dvd_add_right (Nat.dvd_mul_right _ _)]
  exact Nat.not_dvd_of_pos_of_lt (by omega) (by omega)

/-- In front of the kept slot number `j` there are `j` kept ones. -/
lemma kept_slot (two : 2 ≤ N) : kept N s (slot N s j) = j := by
  have rem := Nat.mod_lt (s + j) (show 0 < N - 1 by omega)
  have wraps : (s + slot N s j) / N = (s + j) / (N - 1) := by
    rw [slot_counter two, Nat.mul_add_div (show 0 < N by omega),
      Nat.div_eq_of_lt (show (s + j) % (N - 1) < N by omega), Nat.add_zero]
  rw [kept, wraps, slot, Nat.add_sub_cancel]

/-- The kept slot number `j` lies among the first `n` slots exactly when more than `j` of them
    are kept. -/
lemma lt_kept_iff (two : 2 ≤ N) (lt : s < N) : j < kept N s n ↔ slot N s j < n := by
  constructor
  · intro less
    by_contra le
    have := kept_mono lt (Nat.le_of_not_lt le)
    rw [kept_slot two] at this
    omega
  · intro less
    have := kept_mono lt (Nat.succ_le_of_lt less)
    rw [Nat.succ_eq_add_one, kept_succ_of_not_dvd lt (slot_not_dvd two), kept_slot two] at this
    omega

end SlotCounter
