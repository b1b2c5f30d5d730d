import Ks959.Tools.HexBytes

/-!
# Numeric arguments (`ks959-control-test.c`, `ks959-lib-probe.c`)

`parse_u8` and `parse_u16`, which both tools carry alike: `strtoul` to base 0 over the whole
argument, and a bound on the value. `arguments_exact` says which arguments are taken, and for which
number. These are the constants of C, and by the sign that `strtoul` reads also a minus sign before
a constant that is short of `2 ^ 32` by the number.
-/

namespace Ks959.Tools
open Numerals

/-- The common body of `parse_u8` and `parse_u16`: what is returned, and what `*out` holds. -/
def parseUnsigned {α : Type} (limit : UInt32) (narrow : UInt32 → α) (s : Option CString)
    (out : Option α) : Bool × Option α :=
  match s, out with
  | some s, some _ =>
    let (value, rest) := strtoulShown s.chars
    if rest = s.chars ∨ rest ≠ [] ∨ value > limit then (false, out)
    else (true, some (narrow value))
  | _, _ => (false, out)

/-- `parse_u8`. -/
def parseU8 (s : Option CString) (out : Option UInt8) : Bool × Option UInt8 :=
  parseUnsigned 0xFF UInt32.toUInt8 s out

/-- `parse_u16`. -/
def parseU16 (s : Option CString) (out : Option UInt16) : Bool × Option UInt16 :=
  parseUnsigned 0xFFFF UInt32.toUInt16 s out

/-- The signed magnitudes that stand for a number. -/
def SignedFor (sign : Sign) (m v : Nat) : Prop :=
  m < 2 ^ 32 ∧ match sign with
    | .none | .plus => m = v
    | .minus => 2 ^ 32 ∣ m + v

/-- The texts that are taken for a number. -/
def Denotes (text : List UInt8) (v : Nat) : Prop :=
  ∃ base, ∃ n : Numeral base, Shows base n.lead n.digits ∧ n.text = text ∧
    SignedFor n.sign (magnitude base n.digits) v

/-- `0x` and at least `width` hexadecimal digits, as the tools print a number. -/
def hexArgument (width n : Nat) : List UInt8 := 0x30 :: 0x78 :: printed 16 width n

/-- The digits of a number, as the tools print a length. -/
def decimalArgument (n : Nat) : List UInt8 := printed 10 1 n

/-- An argument is taken for a number exactly when it denotes one within the bound, and `*out` is
    left alone otherwise; the texts that the tools print for a number are taken for it. -/
structure ParsesNumber {α : Type} (parse : Option CString → Option α → Bool × Option α)
    (toNat : α → Nat) (width : Nat) : Prop where
  accepts (s : CString) (old v : α) :
    parse (some s) (some old) = (true, some v) ↔ Denotes s.chars (toNat v)
  keeps (s : CString) (old : α) : (parse (some s) (some old)).1 = false →
    parse (some s) (some old) = (false, some old)
  hex (s : CString) (old v : α) : s.chars = hexArgument width (toNat v) →
    parse (some s) (some old) = (true, some v)
  decimal (s : CString) (old v : α) : s.chars = decimalArgument (toNat v) →
    parse (some s) (some old) = (true, some v)

variable {α : Type} {limit : UInt32} {narrow : UInt32 → α} {toNat : α → Nat} {s : CString} {old : α}

/-- The signed magnitudes whose word is a number below `ULONG_MAX`. -/
lemma word_eq_iff {sign : Sign} {m v : Nat} (small : v < 2 ^ 32 - 1) :
    word sign m = UInt32.ofNat v ↔ SignedFor sign m v := by
  have fits : v < 2 ^ 32 := by omega
  have value : (UInt32.ofNat v).toNat = v := UInt32.toNat_ofNat_of_lt' fits
  rw [← UInt32.toNat_inj, value]
  unfold word SignedFor
  split_ifs with large
  · have top : (0xFFFFFFFF : UInt32).toNat = 2 ^ 32 - 1 := by decide
    rw [top]
    exact iff_of_false small.ne' fun fits => Nat.not_lt.mpr large fits.1
  · have lt := Nat.not_le.mp large
    have magnitude : (UInt32.ofNat m).toNat = m := UInt32.toNat_ofNat_of_lt' lt
    rw [and_iff_right lt]
    cases sign with
    | none | plus => rw [magnitude]
    | minus =>
      rw [UInt32.toNat_neg, magnitude]
      change (2 ^ 32 - m) % 2 ^ 32 = v ↔ 2 ^ 32 ∣ m + v
      omega

/-- A text is refused and `*out` left alone, or it is read to its end and the value is within the
    bound. -/
lemma parseUnsigned_eq (limit : UInt32) (narrow : UInt32 → α) (s : CString) (old : α) :
    parseUnsigned limit narrow (some s) (some old) = (false, some old) ∨
      ∃ value ≤ limit, (strtoulShown s.chars = (value, []) ∧ s.chars ≠ []) ∧
        parseUnsigned limit narrow (some s) (some old) = (true, some (narrow value)) := by
  obtain ⟨value, rest, read⟩ : ∃ value rest, strtoulShown s.chars = (value, rest) := ⟨_, _, rfl⟩
  simp only [parseUnsigned, read]
  split_ifs with bad
  · exact .inl rfl
  · obtain ⟨moved, ended, small⟩ := not_or.mp bad |>.imp_right not_or.mp
    rw [not_not] at ended
    subst ended
    exact .inr ⟨value, UInt32.not_lt.mp small, ⟨rfl, Ne.symm moved⟩, rfl⟩

/-- A text that is read to its end, with a value within the bound, is taken. -/
lemma parseUnsigned_of_read {value : UInt32} (small : value ≤ limit)
    (read : strtoulShown s.chars = (value, [])) (nonempty : s.chars ≠ []) :
    parseUnsigned limit narrow (some s) (some old) = (true, some (narrow value)) := by
  simp only [parseUnsigned, read]
  refine if_neg ?_
  rintro (moved | ended | large)
  · exact nonempty moved.symm
  · exact ended rfl
  · exact absurd small (UInt32.not_le.mpr large)

/-- The two functions, from what narrowing does to a value within the bound. -/
lemma parsesNumber {width : Nat} (pos : 0 < width) (limited : limit.toNat < 2 ^ 32 - 1)
    (narrowed : ∀ value ≤ limit, toNat (narrow value) = value.toNat)
    (fits : ∀ v, toNat v ≤ limit.toNat) (inj : Function.Injective toNat) :
    ParsesNumber (parseUnsigned limit narrow) toNat width := by
  have range (v : α) : toNat v < 2 ^ 32 := by
    have := fits v
    omega
  have taken (s : CString) (old v : α)
      (read : strtoulShown s.chars = (UInt32.ofNat (toNat v), [])) (nonempty : s.chars ≠ []) :
      parseUnsigned limit narrow (some s) (some old) = (true, some v) := by
    have value : (UInt32.ofNat (toNat v)).toNat = toNat v :=
      UInt32.toNat_ofNat_of_lt' (range v)
    have small : UInt32.ofNat (toNat v) ≤ limit := by
      rw [UInt32.le_iff_toNat_le, value]
      exact fits v
    have same : narrow (UInt32.ofNat (toNat v)) = v := inj ((narrowed _ small).trans value)
    rw [parseUnsigned_of_read small read nonempty, same]
  constructor
  · intro s old v
    have small : toNat v < 2 ^ 32 - 1 := (fits v).trans_lt limited
    constructor
    · intro parsed
      obtain rejected | ⟨value, le, whole, accepted⟩ := parseUnsigned_eq limit narrow s old
      · rw [rejected] at parsed
        cases parsed
      · rw [accepted] at parsed
        cases parsed
        obtain ⟨base, n, shows, text, val⟩ := shown_iff.mp whole
        refine ⟨base, n, shows, text, (word_eq_iff small).mp ?_⟩
        rw [narrowed value le, UInt32.ofNat_toNat]
        exact val
    · rintro ⟨base, n, shows, text, signed⟩
      obtain ⟨read, nonempty⟩ := shown_iff.mpr ⟨base, n, shows, text, (word_eq_iff small).mpr signed⟩
      exact taken s old v read nonempty
  · intro s old failed
    obtain rejected | ⟨value, _, _, accepted⟩ := parseUnsigned_eq limit narrow s old
    · exact rejected
    · rw [accepted] at failed
      cases failed
  · intro s old v text
    refine taken s old v ?_ ?_
    · rw [text]
      exact strtoulShown_hex pos (range v)
    · rw [text]
      exact List.cons_ne_nil _ _
  · intro s old v text
    refine taken s old v ?_ ?_
    · rw [text]
      exact strtoulShown_decimal (range v)
    · rw [text]
      exact printed_ne_nil (by decide)

/-- `parse_u8` takes the numbers of a byte. -/
lemma parseU8_parses : ParsesNumber parseU8 UInt8.toNat 2 := by
  refine parsesNumber (by decide) (by decide) ?_ ?_ fun _ _ => UInt8.toNat_inj.mp
  · intro value le
    exact byte_of_value le
  · intro v
    have limit : (0xFF : UInt32).toNat = 255 := by decide
    have lt := v.toNat_lt
    omega

/-- `parse_u16` takes the numbers of two bytes. -/
lemma parseU16_parses : ParsesNumber parseU16 UInt16.toNat 4 := by
  refine parsesNumber (by decide) (by decide) ?_ ?_ fun _ _ => UInt16.toNat_inj.mp
  · intro value le
    rw [UInt32.le_iff_toNat_le] at le
    rw [UInt32.toNat_toUInt16]
    exact Nat.mod_eq_of_lt (Nat.lt_succ_of_le le)
  · intro v
    have limit : (0xFFFF : UInt32).toNat = 65535 := by decide
    have lt := v.toNat_lt
    omega

/-- An argument is taken for a number that it denotes, or it denotes none. -/
lemma ParsesNumber.taken_or {width : Nat}
    (parses : ParsesNumber (parseUnsigned limit narrow) toNat width) (s : CString) (old : α) :
    (∃ v, parseUnsigned limit narrow (some s) (some old) = (true, some v) ∧
        Denotes s.chars (toNat v)) ∨
      parseUnsigned limit narrow (some s) (some old) = (false, some old) ∧
        ∀ v, ¬ Denotes s.chars (toNat v) := by
  obtain rejected | ⟨value, _, _, accepted⟩ := parseUnsigned_eq limit narrow s old
  · refine .inr ⟨rejected, fun v denotes => ?_⟩
    cases rejected.symm.trans ((parses.accepts s old v).mpr denotes)
  · exact .inl ⟨_, accepted, (parses.accepts s old _).mp accepted⟩

/-- Both functions take exactly the texts that denote a number of their range. -/
theorem arguments_exact :
    ParsesNumber parseU8 UInt8.toNat 2 ∧ ParsesNumber parseU16 UInt16.toNat 4 :=
  ⟨parseU8_parses, parseU16_parses⟩

end Ks959.Tools
