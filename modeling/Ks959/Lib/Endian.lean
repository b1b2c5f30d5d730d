import Mathlib

/-!
# Byte order

`littleBytes w n` are the `w` low bytes of a number, the least significant first, and `ofLittle`
reads them back (`ofLittle_littleBytes`). A machine lays a word out as its `ByteOrder` says; the
two orders lay out the same bytes exactly when these are a palindrome (`image_eq_little_iff`).
-/

/-- The byte order of a machine. -/
inductive ByteOrder where
  | little
  | big
deriving DecidableEq, Repr

namespace ByteOrder

/-- The `w` low bytes of a number, the least significant first. -/
def littleBytes : (w n : Nat) → List UInt8
  | 0, _ => []
  | w + 1, n => UInt8.ofNat n :: littleBytes w (n / 256)

/-- Read bytes as a number, the first being the least significant. -/
def ofLittle (bytes : List UInt8) : Nat := Nat.ofDigits 256 (bytes.map UInt8.toNat)

/-- The bytes of a word of `w` bytes in memory. -/
def image (order : ByteOrder) (w n : Nat) : List UInt8 :=
  match order with
  | little => littleBytes w n
  | big => (littleBytes w n).reverse

variable {w n : Nat}

/-- A number is written in as many bytes as asked for. -/
@[simp] lemma length_littleBytes : (littleBytes w n).length = w := by
  induction w generalizing n with
  | zero => rfl
  | succ w ih => rw [littleBytes, List.length_cons, ih]

/-- Bytes laid out in little-endian order are read back in it. -/
lemma ofLittle_littleBytes (lt : n < 256 ^ w) : ofLittle (littleBytes w n) = n := by
  induction w generalizing n with
  | zero =>
    rw [pow_zero, Nat.lt_one_iff] at lt
    exact lt.symm
  | succ w ih =>
    have rest : n / 256 < 256 ^ w := by
      rw [Nat.div_lt_iff_lt_mul (by decide), ← pow_succ]
      exact lt
    have tail := ih rest
    unfold ofLittle at tail
    rw [ofLittle, littleBytes, List.map_cons, Nat.ofDigits_cons, tail, UInt8.toNat_ofNat']
    exact Nat.mod_add_div n 256

/-- A machine lays out the little-endian bytes exactly when it is one or the bytes are the same
    both ways round. -/
lemma image_eq_little_iff {order : ByteOrder} :
    order.image w n = littleBytes w n ↔ order = little ∨ (littleBytes w n).Palindrome := by
  cases order with
  | little => exact ⟨fun _ => .inl rfl, fun _ => rfl⟩
  | big =>
    rw [image, ← List.Palindrome.iff_reverse_eq]
    exact ⟨.inr, fun either => either.resolve_left nofun⟩

end ByteOrder
