import Mathlib

/-!
# Occurrences of a word in a text

A word occurs at the position `k` of a text when the text reads it from `k` on (`OccursAt`); it is
then an infix, and every infix is found so (`infix_iff_occursAt`). In a text that has been cut off
the occurrences are those that end before the cut (`infix_take_iff`). `infix_map_iff_same` is the
search in a text that has been put into a normal form, seen from the text itself.
-/

namespace Occurrences

variable {α β : Type} {word text : List α} {k n : Nat}

/-- The text reads `word` from the position `k` on. -/
def OccursAt (word text : List α) (k : Nat) : Prop := word <+: text.drop k

/-- A word is inside a text exactly when it occurs somewhere. -/
lemma infix_iff_occursAt : word <:+: text ↔ ∃ k, OccursAt word text k := by
  constructor
  · rintro ⟨before, behind, rfl⟩
    refine ⟨before.length, behind, ?_⟩
    rw [List.append_assoc, List.drop_left]
  · rintro ⟨k, occurs⟩
    exact occurs.isInfix.trans (List.drop_suffix k text).isInfix

/-- An occurrence in a text that is cut off behind `n` symbols ends there at the latest. -/
lemma occursAt_take_iff (nonempty : word ≠ []) :
    OccursAt word (text.take n) k ↔ OccursAt word text k ∧ k + word.length ≤ n := by
  have pos := List.length_pos_iff.mpr nonempty
  rw [OccursAt, List.drop_take, List.prefix_take_iff]
  exact and_congr_right fun _ => by omega

/-- The words that are left when a text is cut off. -/
theorem infix_take_iff (nonempty : word ≠ []) :
    word <:+: text.take n ↔ ∃ k, OccursAt word text k ∧ k + word.length ≤ n := by
  rw [infix_iff_occursAt]
  exact exists_congr fun k => occursAt_take_iff nonempty

/-- Two words have one normal form when their symbols have. -/
lemma map_eq_map_iff {f : α → β} {u v : List α} :
    u.map f = v.map f ↔ List.Forall₂ (fun x y => f x = f y) u v := by
  rw [← List.forall₂_eq_eq_eq, List.forall₂_map_left_iff, List.forall₂_map_right_iff]

/-- A word in normal form occurs in the normal form of a text when the text has an infix that is
    the same up to normal form. -/
theorem infix_map_iff_same {f : α → α} (normal : word.map f = word) :
    word <:+: text.map f ↔ ∃ u, u <:+: text ∧ List.Forall₂ (fun x y => f x = f y) u word := by
  rw [List.infix_map_iff]
  refine exists_congr fun u => and_congr_right fun _ => ?_
  rw [← map_eq_map_iff, normal]
  exact eq_comm

end Occurrences
