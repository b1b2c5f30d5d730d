import Mathlib

/-!
# Object memory

A memory maps every object (a C array, a heap block) to the list of its cells, and every access
is checked against the object it goes to: `Mem.load` and `Mem.store` are `none` out of bounds,
which stands for undefined behaviour. Two different objects never overlap; a routine that is given
the same object twice works in place.

`Mem.splice` is what a routine leaves behind that has filled the start of an object. The rules
below extend a splice by one store (`store_splice`) and read the old cells behind it
(`load_splice`), which is all that a loop writing from the left needs, in place or not.
-/

namespace CMemory

variable {ι α : Type} [DecidableEq ι]

/-- The cells of every object. -/
abbrev Mem (ι α : Type) := ι → List α

namespace Mem

/-- Read the cell `i` of the object `p`. -/
def load (m : Mem ι α) (p : ι) (i : Nat) : Option α := (m p)[i]?

/-- Write the cell `i` of the object `p`. -/
def store (m : Mem ι α) (p : ι) (i : Nat) (v : α) : Option (Mem ι α) :=
  if i < (m p).length then some (Function.update m p ((m p).set i v)) else none

/-- The memory with the first cells of `p` replaced by `xs`. -/
def splice (m : Mem ι α) (p : ι) (xs : List α) : Mem ι α :=
  Function.update m p (xs ++ (m p).drop xs.length)

/-- Copy `xs` to the start of `p` (`memset`, `memcpy`, a transfer that fills a buffer). -/
def write (m : Mem ι α) (p : ι) (xs : List α) : Option (Mem ι α) :=
  if xs.length ≤ (m p).length then some (m.splice p xs) else none

variable {m : Mem ι α} {p q : ι} {xs ys : List α} {i : Nat} {v : α}

/-- What a loop that reads from the left still has to read: the cells `xs` from `i` on. -/
def Unread (m : Mem ι α) (p : ι) (i : Nat) (xs : List α) : Prop :=
  (m p).drop i = xs ++ (m p).drop (i + xs.length)

omit [DecidableEq ι] in
/-- At the start everything up to `i` is unread. -/
lemma unread_take (le : i ≤ (m p).length) : m.Unread p 0 ((m p).take i) := by
  simp [Unread, le]

omit [DecidableEq ι] in
/-- The next cell to read holds the first of the unread values. -/
lemma Unread.load (unread : m.Unread p i (v :: xs)) : m.load p i = some v := by
  rw [Mem.load, ← Nat.add_zero i, ← List.getElem?_drop, unread]
  rfl

omit [DecidableEq ι] in
/-- A cell that has been read is no longer unread. -/
lemma Unread.tail (unread : m.Unread p i (v :: xs)) : m.Unread p (i + 1) xs := by
  have rest := congrArg (List.drop 1) unread
  rw [List.drop_drop, List.length_cons, Nat.add_comm xs.length 1, ← Nat.add_assoc] at rest
  exact rest

/-- Writing nothing changes nothing. -/
@[simp] lemma splice_nil : m.splice p [] = m := by
  simp [splice]

/-- The object that is written to. -/
lemma splice_same : m.splice p xs p = xs ++ (m p).drop xs.length := by
  simp [splice]

/-- The other objects are left alone. -/
lemma splice_other (ne : q ≠ p) : m.splice p xs q = m q := by
  simp [splice, ne]

/-- Writing inside an object leaves the sizes alone. -/
lemma length_splice (le : xs.length ≤ (m p).length) : (m.splice p xs q).length = (m q).length := by
  by_cases e : q = p
  · subst e
    rw [splice_same, List.length_append, List.length_drop]
    omega
  · rw [splice_other e]

/-- The object starts with what has been written. -/
@[simp] lemma take_splice : (m.splice p xs p).take xs.length = xs := by
  rw [splice_same, List.take_left]

/-- A write that stays inside the object is a splice. -/
lemma write_eq (le : xs.length ≤ (m p).length) : m.write p xs = some (m.splice p xs) := by
  simp [write, le]

/-- A store right behind a splice extends it. -/
lemma store_splice (lt : xs.length < (m p).length) :
    (m.splice p xs).store p xs.length v = some (m.splice p (xs ++ [v])) := by
  have len : xs.length < (m.splice p xs p).length := by
    rw [length_splice (by omega)]; exact lt
  have cells : (m.splice p xs p).set xs.length v
      = xs ++ [v] ++ (m p).drop (xs ++ [v]).length := by
    rw [splice_same, List.set_append_right _ _ le_rfl, Nat.sub_self,
      List.drop_eq_getElem_cons lt, List.set_cons_zero]
    simp
  rw [store, if_pos len, cells]
  simp [splice]

/-- A store inside a splice changes the spliced cell. -/
lemma store_splice_inner {z : α} (fits : (xs ++ z :: ys).length ≤ (m p).length) :
    (m.splice p (xs ++ z :: ys)).store p xs.length v = some (m.splice p (xs ++ v :: ys)) := by
  have len : xs.length < (m.splice p (xs ++ z :: ys) p).length := by
    rw [length_splice fits]
    refine Nat.lt_of_lt_of_le ?_ fits
    simp
  have cells : (m.splice p (xs ++ z :: ys) p).set xs.length v
      = xs ++ v :: ys ++ (m p).drop (xs ++ v :: ys).length := by
    rw [splice_same, List.append_assoc, List.set_append_right _ _ le_rfl, Nat.sub_self]
    simp
  rw [store, if_pos len, cells]
  simp [splice]

/-- Behind a splice, and in every other object, the old cells are still there. -/
lemma load_splice (le : q = p → xs.length ≤ i) : (m.splice p xs).load q i = m.load q i := by
  by_cases e : q = p
  · subst e
    rw [load, splice_same, List.getElem?_append_right (le rfl), List.getElem?_drop,
      Nat.add_sub_cancel' (le rfl), load]
  · rw [load, splice_other e, load]

/-- Inside a splice are the new cells. -/
lemma load_splice_inside (lt : i < xs.length) : (m.splice p xs).load p i = xs[i]? := by
  rw [load, splice_same, List.getElem?_append_left lt]

end Mem
end CMemory
