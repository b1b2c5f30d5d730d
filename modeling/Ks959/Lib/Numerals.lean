import Mathlib

/-!
# Numerals of the C runtime

`strtoul` reads a numeral off the front of a text: white space, a sign, for base 16 a `0x`, and the
digits that follow. It hands back the value, a word of 32 bits, and the text behind the digits, or
the text itself when it has found no digit. A magnitude that does not fit a word becomes the
largest word, and a minus sign negates modulo `2 ^ 32`.

A `Numeral` is a text taken apart in this way. `whole_iff` says that the texts which are read to
their end are the numerals.

`strtoulShown` leaves the base to the text; the texts it reads to their end are the numerals that
show their base (`shown_iff`). `printed` is how `printf` writes a number; what `0x%X` and `%u`
write is read back (`strtoulShown_hex`, `strtoulShown_decimal`).
-/

namespace Numerals

/-- The digit that a character stands for; there is no digit `36`. -/
def digitValue (c : UInt8) : Nat :=
  if 0x30 ≤ c ∧ c ≤ 0x39 then c.toNat - 0x30
  else if 0x41 ≤ c ∧ c ≤ 0x5A then c.toNat - 0x41 + 10
  else if 0x61 ≤ c ∧ c ≤ 0x7A then c.toNat - 0x61 + 10
  else 36

def isDigit (base : Nat) (c : UInt8) : Bool := decide (digitValue c < base)

/-- `isspace` in the C locale. -/
def isSpace (c : UInt8) : Bool := decide (c = 0x20 ∨ 0x09 ≤ c ∧ c ≤ 0x0D)

inductive Sign where
  | none
  | plus
  | minus
deriving DecidableEq, Repr

def Sign.text : Sign → List UInt8
  | none => []
  | plus => [0x2B]
  | minus => [0x2D]

/-- Take a sign off the front. -/
def splitSign : List UInt8 → Sign × List UInt8
  | [] => (.none, [])
  | c :: cs => if c = 0x2B then (.plus, cs) else if c = 0x2D then (.minus, cs) else (.none, c :: cs)

/-- Take the `0x` of a number to base 16 off the front. -/
def dropLead (base : Nat) : List UInt8 → List UInt8
  | z :: x :: cs => if base = 16 ∧ z = 0x30 ∧ (x = 0x78 ∨ x = 0x58) then cs else z :: x :: cs
  | cs => cs

/-- The number that a run of digits stands for. -/
def magnitude (base : Nat) (digits : List UInt8) : Nat :=
  Nat.ofDigits base (digits.reverse.map digitValue)

/-- The word for a signed magnitude. One that is out of range is `ULONG_MAX`, which a minus sign
    does not negate. -/
def word (sign : Sign) (n : Nat) : UInt32 :=
  if 2 ^ 32 ≤ n then 0xFFFFFFFF
  else match sign with
    | .minus => -UInt32.ofNat n
    | .none | .plus => UInt32.ofNat n

/-- `strtoul`: the value, and the text behind the digits. -/
def strtoul (base : Nat) (text : List UInt8) : UInt32 × List UInt8 :=
  let (sign, unsigned) := splitSign (text.dropWhile isSpace)
  let digits := dropLead base unsigned
  let run := digits.takeWhile (isDigit base)
  if run = [] then (0, text)
  else (word sign (magnitude base run), digits.dropWhile (isDigit base))

/-- What may stand in front of the digits. -/
def IsLead (base : Nat) (lead : List UInt8) : Prop :=
  lead = [] ∨ base = 16 ∧ (lead = [0x30, 0x78] ∨ lead = [0x30, 0x58])

/-- A text taken apart into white space, sign, lead and digits. -/
structure Numeral (base : Nat) where
  blanks : List UInt8
  sign : Sign
  lead : List UInt8
  digits : List UInt8
  blank : ∀ c ∈ blanks, isSpace c = true
  isLead : IsLead base lead
  digit : ∀ c ∈ digits, isDigit base c = true
  nonempty : digits ≠ []

def Numeral.text {base : Nat} (n : Numeral base) : List UInt8 :=
  n.blanks ++ (n.sign.text ++ (n.lead ++ n.digits))

def Numeral.value {base : Nat} (n : Numeral base) : UInt32 := word n.sign (magnitude base n.digits)

variable {base : Nat} {text body digits lead : List UInt8} {c : UInt8} {sign : Sign}

/-- A digit is not white space. -/
lemma isSpace_of_digit (digit : digitValue c < 36) : isSpace c = false := by
  unfold digitValue at digit
  simp only [isSpace, decide_eq_false_iff_not, UInt8.le_iff_toNat_le, ← UInt8.toNat_inj] at digit ⊢
  simp at digit ⊢
  split_ifs at digit <;> omega

/-- A digit is not a sign. -/
lemma not_sign_of_digit (digit : digitValue c < 36) : c ≠ 0x2B ∧ c ≠ 0x2D := by
  constructor
  · rintro rfl
    exact absurd digit (by decide)
  · rintro rfl
    exact absurd digit (by decide)

/-- The value of a digit, in any base up to 36. -/
lemma digitValue_lt (small : base ≤ 36) (digit : isDigit base c = true) : digitValue c < 36 :=
  (of_decide_eq_true digit).trans_le small

/-- Behind the sign a numeral starts with a digit. -/
lemma Numeral.starts (small : base ≤ 36) (n : Numeral base) :
    ∃ c cs, n.lead ++ n.digits = c :: cs ∧ digitValue c < 36 := by
  obtain ⟨c, cs, run⟩ := List.exists_cons_of_ne_nil n.nonempty
  have digit : isDigit base c = true := n.digit c (run ▸ List.mem_cons_self)
  obtain none | ⟨_, lower | upper⟩ := n.isLead
  · exact ⟨c, cs, by rw [none, run, List.nil_append], digitValue_lt small digit⟩
  · exact ⟨0x30, 0x78 :: n.digits, by rw [lower]; rfl, by decide⟩
  · exact ⟨0x30, 0x58 :: n.digits, by rw [upper]; rfl, by decide⟩

/-- A sign in front of a digit is split off. -/
lemma splitSign_text (starts : ∃ c cs, body = c :: cs ∧ digitValue c < 36) :
    splitSign (sign.text ++ body) = (sign, body) := by
  obtain ⟨c, cs, rfl, digit⟩ := starts
  cases sign with
  | none =>
    obtain ⟨plus, minus⟩ := not_sign_of_digit digit
    rw [Sign.text, List.nil_append, splitSign, if_neg plus, if_neg minus]
  | plus => rfl
  | minus => rfl

/-- White space ends at the sign or at the first digit. -/
lemma dropWhile_blanks {blanks : List UInt8} (blank : ∀ c ∈ blanks, isSpace c = true)
    (starts : ∃ c cs, body = c :: cs ∧ digitValue c < 36) :
    (blanks ++ (sign.text ++ body)).dropWhile isSpace = sign.text ++ body := by
  obtain ⟨c, cs, rfl, digit⟩ := starts
  rw [List.dropWhile_append_of_pos blank]
  cases sign with
  | none =>
    refine List.dropWhile_cons_of_neg ?_
    rw [isSpace_of_digit digit]
    decide
  | plus => rfl
  | minus => rfl

/-- A lead in front of digits is dropped. -/
lemma dropLead_lead (isLead : IsLead base lead) (digit : ∀ c ∈ digits, isDigit base c = true) :
    dropLead base (lead ++ digits) = digits := by
  obtain rfl | ⟨rfl, rfl | rfl⟩ := isLead
  · match digits with
    | [] => rfl
    | [_] => rfl
    | z :: x :: cs =>
      refine if_neg ?_
      rintro ⟨rfl, rfl, rfl | rfl⟩
      · exact absurd (digit 0x78 (by simp)) (by decide)
      · exact absurd (digit 0x58 (by simp)) (by decide)
  · rfl
  · rfl

/-- A numeral is read to its end. -/
lemma strtoul_numeral (small : base ≤ 36) (n : Numeral base) :
    strtoul base n.text = (n.value, []) := by
  have starts := n.starts small
  have run : n.digits.takeWhile (isDigit base) = n.digits := List.takeWhile_eq_self_iff.mpr n.digit
  have rest : n.digits.dropWhile (isDigit base) = [] := List.dropWhile_eq_nil_iff.mpr n.digit
  simp only [strtoul, Numeral.text, dropWhile_blanks n.blank starts, splitSign_text starts,
    dropLead_lead n.isLead n.digit, run, rest, if_neg n.nonempty]
  rfl

/-- Splitting a sign off loses nothing of the text. -/
lemma splitSign_eq : ∀ text, (splitSign text).1.text ++ (splitSign text).2 = text
  | [] => rfl
  | c :: cs => by
    rw [splitSign]
    split_ifs with plus minus
    · rw [plus]
      rfl
    · rw [minus]
      rfl
    · rfl

/-- What is dropped from a text is a lead. -/
lemma dropLead_eq (base : Nat) :
    ∀ text, ∃ lead, IsLead base lead ∧ lead ++ dropLead base text = text
  | [] => ⟨[], .inl rfl, rfl⟩
  | [c] => ⟨[], .inl rfl, rfl⟩
  | z :: x :: cs => by
    rw [dropLead]
    split_ifs with lead
    · obtain ⟨sixteen, rfl, rfl | rfl⟩ := lead
      · exact ⟨[0x30, 0x78], .inr ⟨sixteen, .inl rfl⟩, rfl⟩
      · exact ⟨[0x30, 0x58], .inr ⟨sixteen, .inr rfl⟩, rfl⟩
    · exact ⟨[], .inl rfl, rfl⟩

/-- What is read to its end is a numeral. -/
lemma exists_numeral (converted : (strtoul base text).2 ≠ text)
    (ended : (strtoul base text).2 = []) : ∃ n : Numeral base, n.text = text := by
  obtain ⟨sign, unsigned, split⟩ :
      ∃ sign unsigned, splitSign (text.dropWhile isSpace) = (sign, unsigned) := ⟨_, _, rfl⟩
  have signed := splitSign_eq (text.dropWhile isSpace)
  obtain ⟨lead, isLead, leads⟩ := dropLead_eq base unsigned
  simp only [strtoul, split] at converted ended signed
  split_ifs at converted ended with nothing
  · exact absurd rfl converted
  · have rest : (dropLead base unsigned).dropWhile (isDigit base) = [] := ended
    have digit := List.dropWhile_eq_nil_iff.mp rest
    rw [List.takeWhile_eq_self_iff.mpr digit] at nothing
    refine ⟨⟨text.takeWhile isSpace, sign, lead, dropLead base unsigned,
      fun c => List.mem_takeWhile_imp, isLead, digit, nothing⟩, ?_⟩
    rw [Numeral.text, leads, signed, List.takeWhile_append_dropWhile]

/-- The texts that are read to their end are the numerals, with their values. -/
theorem whole_iff (small : base ≤ 36) {value : UInt32} :
    (strtoul base text = (value, []) ∧ text ≠ []) ↔
      ∃ n : Numeral base, n.text = text ∧ n.value = value := by
  constructor
  · rintro ⟨read, nonempty⟩
    have rest : (strtoul base text).2 = [] := congrArg Prod.snd read
    obtain ⟨n, rfl⟩ := exists_numeral (rest ▸ nonempty.symm) rest
    rw [strtoul_numeral small n] at read
    exact ⟨n, rfl, congrArg Prod.fst read⟩
  · rintro ⟨n, rfl, rfl⟩
    refine ⟨strtoul_numeral small n, fun empty => n.nonempty ?_⟩
    simp only [Numeral.text, List.append_eq_nil_iff] at empty
    exact empty.2.2.2

/-- The base that unsigned text shows: 16 by `0x`, 8 by a leading `0`, 10 otherwise. -/
def shownBase : List UInt8 → Nat
  | z :: x :: _ => if z = 0x30 then if x = 0x78 ∨ x = 0x58 then 16 else 8 else 10
  | [z] => if z = 0x30 then 8 else 10
  | [] => 10

/-- `strtoul` to base 0. -/
def strtoulShown (text : List UInt8) : UInt32 × List UInt8 :=
  strtoul (shownBase (splitSign (text.dropWhile isSpace)).2) text

/-- `atoi`: the number, kept within a `long` of 64 bits, cut down to an `int`. -/
def atoi (text : List UInt8) : Int32 :=
  let (sign, unsigned) := splitSign (text.dropWhile isSpace)
  let n := magnitude 10 (unsigned.takeWhile (isDigit 10))
  match sign with
  | .minus => Int32.ofInt (-Int.ofNat (min n (2 ^ 63)))
  | .none | .plus => Int32.ofInt (Int.ofNat (min n (2 ^ 63 - 1)))

/-- Lead and digits that show their base. -/
inductive Shows : Nat → List UInt8 → List UInt8 → Prop where
  | hex (lead digits : List UInt8) (marked : lead ≠ []) : Shows 16 lead digits
  | octal (digits : List UInt8) : Shows 8 [] (0x30 :: digits)
  | decimal (c : UInt8) (digits : List UInt8) (nonzero : c ≠ 0x30) : Shows 10 [] (c :: digits)

/-- The character of a digit, as `%u` and `%X` write it. -/
def digitChar (d : Nat) : UInt8 := if d < 10 then UInt8.ofNat (0x30 + d) else UInt8.ofNat (0x37 + d)

/-- The digits of a number, padded with zeros to at least `width`, which is not `0`. -/
def printed (base width n : Nat) : List UInt8 :=
  (((Nat.digits base n).map digitChar).reverse).leftpad width 0x30

/-- A numeral shows its base exactly when that is the base read off its text. -/
lemma Numeral.shows_iff (n : Numeral base) :
    shownBase (n.lead ++ n.digits) = base ↔ Shows base n.lead n.digits := by
  obtain none | ⟨sixteen, marked⟩ := n.isLead
  · obtain ⟨c, cs, run⟩ := List.exists_cons_of_ne_nil n.nonempty
    have digit := n.digit
    rw [none, run, List.nil_append]
    rw [run] at digit
    constructor
    · intro shown
      by_cases zero : c = 0x30
      · subst zero
        cases cs with
        | nil =>
          rw [shownBase, if_pos rfl] at shown
          exact shown ▸ .octal []
        | cons x cs =>
          rw [shownBase, if_pos rfl] at shown
          split_ifs at shown with mark
          · -- neither `x` nor `X` is a digit
            have letter : isDigit 16 x = true := shown ▸ digit x (by simp)
            obtain rfl | rfl := mark
            · exact absurd letter (by decide)
            · exact absurd letter (by decide)
          · exact shown ▸ .octal (x :: cs)
      · have ten : shownBase (c :: cs) = 10 := by cases cs <;> exact if_neg zero
        exact ten.symm.trans shown ▸ .decimal c cs zero
    · intro shows
      cases shows with
      | hex lead digits marked => exact absurd rfl marked
      | octal digits =>
        cases cs with
        | nil => rfl
        | cons x cs =>
          have mark : ¬ (x = 0x78 ∨ x = 0x58) := by
            rintro (rfl | rfl)
            · exact absurd (digit 0x78 (by simp)) (by decide)
            · exact absurd (digit 0x58 (by simp)) (by decide)
          rw [shownBase, if_pos rfl, if_neg mark]
      | decimal c digits nonzero => cases cs <;> exact if_neg nonzero
  · subst sixteen
    refine iff_of_true ?_ (.hex _ _ ?_)
    · obtain lower | upper := marked
      · rw [lower]
        rfl
      · rw [upper]
        rfl
    · obtain lower | upper := marked
      · rw [lower]
        nofun
      · rw [upper]
        nofun

/-- What stands behind the white space and the sign of a numeral. -/
lemma Numeral.unsigned (small : base ≤ 36) (n : Numeral base) :
    (splitSign (n.text.dropWhile isSpace)).2 = n.lead ++ n.digits := by
  have starts := n.starts small
  rw [Numeral.text, dropWhile_blanks n.blank starts, splitSign_text starts]

/-- No text shows a base above 36. -/
lemma shownBase_le (text : List UInt8) : shownBase text ≤ 36 := by
  unfold shownBase
  split
  · split_ifs <;> decide
  · split_ifs <;> decide
  · decide

/-- Lead and digits show no base above 16. -/
lemma Shows.base_le {lead digits : List UInt8} (shows : Shows base lead digits) : base ≤ 16 := by
  cases shows <;> decide

/-- The texts that are read to their end without a base being asked for are the numerals that show
    their base, with their values. -/
theorem shown_iff {value : UInt32} :
    (strtoulShown text = (value, []) ∧ text ≠ []) ↔
      ∃ base, ∃ n : Numeral base, Shows base n.lead n.digits ∧ n.text = text ∧ n.value = value := by
  constructor
  · rintro ⟨read, nonempty⟩
    have small := shownBase_le (splitSign (text.dropWhile isSpace)).2
    obtain ⟨n, whole, val⟩ := (whole_iff small).mp ⟨read, nonempty⟩
    refine ⟨_, n, n.shows_iff.mp ?_, whole, val⟩
    rw [← n.unsigned small, whole]
  · rintro ⟨base, n, shows, rfl, rfl⟩
    have small : base ≤ 36 := shows.base_le.trans (by decide)
    have shown : shownBase (splitSign (n.text.dropWhile isSpace)).2 = base := by
      rw [n.unsigned small]
      exact n.shows_iff.mpr shows
    rw [strtoulShown, shown]
    exact (whole_iff small).mpr ⟨n, rfl, rfl⟩

/-- The character of a digit has its value. -/
lemma digitValue_digitChar {d : Nat} (lt : d < 16) : digitValue (digitChar d) = d := by
  have all : ∀ d < 16, digitValue (digitChar d) = d := by decide
  exact all d lt

/-- The character of a digit is a digit. -/
lemma isDigit_digitChar {d : Nat} (small : base ≤ 16) (lt : d < base) :
    isDigit base (digitChar d) = true := by
  rw [isDigit, digitValue_digitChar (lt.trans_le small)]
  exact decide_eq_true lt

/-- The digits that are printed are digits. -/
lemma isDigit_printed {width n : Nat} (two : 1 < base) (small : base ≤ 16) :
    ∀ c ∈ printed base width n, isDigit base c = true := by
  intro c mem
  rw [printed, List.leftpad, List.mem_append, List.mem_replicate, List.mem_reverse,
    List.mem_map] at mem
  obtain ⟨_, rfl⟩ | ⟨d, digit, rfl⟩ := mem
  · exact isDigit_digitChar (d := 0) small (by omega)
  · exact isDigit_digitChar small (Nat.digits_lt_base two digit)

/-- The digits that are printed stand for the number. -/
lemma magnitude_printed {width n : Nat} (two : 1 < base) (small : base ≤ 16) :
    magnitude base (printed base width n) = n := by
  have same : (Nat.digits base n).map (digitValue ∘ digitChar) = Nat.digits base n := by
    refine (List.map_congr_left fun d digit => ?_).trans (List.map_id _)
    exact digitValue_digitChar ((Nat.digits_lt_base two digit).trans_le small)
  have zero : digitValue 0x30 = 0 := by decide
  rw [magnitude, printed, List.leftpad, List.reverse_append, List.reverse_reverse,
    List.reverse_replicate, List.map_append, List.map_map, List.map_replicate, same, zero,
    Nat.ofDigits_append, Nat.ofDigits_digits, Nat.ofDigits_replicate_zero, Nat.mul_zero,
    Nat.add_zero]

/-- A number is printed with one digit at least. -/
lemma printed_ne_nil {width n : Nat} (pos : 0 < width) : printed base width n ≠ [] := by
  intro empty
  have none := congrArg List.length empty
  rw [printed, List.length_leftpad, List.length_nil] at none
  omega

/-- The word for a magnitude in range without a sign. -/
lemma word_none {n : Nat} (lt : n < 2 ^ 32) : word .none n = UInt32.ofNat n := by
  rw [word, if_neg (Nat.not_le.mpr lt)]

/-- What `0x%0` *width* `X` writes is read back. -/
lemma strtoulShown_hex {width n : Nat} (pos : 0 < width) (lt : n < 2 ^ 32) :
    strtoulShown (0x30 :: 0x78 :: printed 16 width n) = (UInt32.ofNat n, []) := by
  let numeral : Numeral 16 := ⟨[], .none, [0x30, 0x78], printed 16 width n, nofun,
    .inr ⟨rfl, .inl rfl⟩, isDigit_printed (by decide) le_rfl, printed_ne_nil pos⟩
  have value : numeral.value = UInt32.ofNat n := by
    rw [← word_none lt, Numeral.value, magnitude_printed (by decide) le_rfl]
  exact (shown_iff.mpr ⟨16, numeral, .hex _ _ nofun, rfl, value⟩).1

/-- Only the digit `0` is printed as `0`. -/
lemma digitChar_ne_zero {d : Nat} (lt : d < 16) (pos : d ≠ 0) : digitChar d ≠ 0x30 := by
  intro zero
  have value := digitValue_digitChar lt
  rw [zero] at value
  exact pos value.symm

/-- A positive number is printed with a first digit that is not `0`. -/
lemma printed_pos {n : Nat} (pos : n ≠ 0) :
    ∃ c cs, printed 10 1 n = c :: cs ∧ c ≠ 0x30 := by
  have some := Nat.digits_ne_nil_iff_ne_zero (b := 10) |>.mpr pos
  have last : (Nat.digits 10 n).getLast some ∈ Nat.digits 10 n := List.getLast_mem some
  have long : 1 - ((Nat.digits 10 n).map digitChar).reverse.length = 0 := by
    have := List.length_pos_iff.mpr some
    rw [List.length_reverse, List.length_map]
    omega
  refine ⟨digitChar ((Nat.digits 10 n).getLast some),
    ((Nat.digits 10 n).dropLast.map digitChar).reverse, ?_, ?_⟩
  · rw [printed, List.leftpad, long, List.replicate_zero, List.nil_append]
    conv_lhs => rw [← List.dropLast_append_getLast some]
    rw [List.map_append, List.reverse_append]
    rfl
  · refine digitChar_ne_zero ?_ (Nat.getLast_digit_ne_zero 10 pos)
    exact (Nat.digits_lt_base (by decide) last).trans (by decide)

/-- What `%u` writes is read back. -/
lemma strtoulShown_decimal {n : Nat} (lt : n < 2 ^ 32) :
    strtoulShown (printed 10 1 n) = (UInt32.ofNat n, []) := by
  rcases eq_or_ne n 0 with rfl | pos
  · rfl
  · obtain ⟨c, cs, text, nonzero⟩ := printed_pos pos
    let numeral : Numeral 10 := ⟨[], .none, [], printed 10 1 n, nofun, .inl rfl,
      isDigit_printed (by decide) (by decide), printed_ne_nil (by decide)⟩
    have value : numeral.value = UInt32.ofNat n := by
      rw [← word_none lt, Numeral.value, magnitude_printed (by decide) (by decide)]
    have shows : Shows 10 numeral.lead numeral.digits := by
      have whole : numeral.digits = c :: cs := text
      rw [whole]
      exact .decimal c cs nonzero
    exact (shown_iff.mpr ⟨10, numeral, shows, rfl, value⟩).1

end Numerals
