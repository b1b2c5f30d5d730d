import Ks959.Device.Path
import Ks959.Lib.Numerals
import Ks959.Lib.Occurrences

/-!
# The matcher is exact up to its buffer (`ks959_device.c`)

`Identifier` is the text that the matcher looks for, told by the values of its digits, and
`SameLetter` compares characters without regard to letter case. The matcher folds one side only;
as an identifier has no capitals this is enough (`sameLetter_iff`). `path_match_exact` says which
paths are matched, on both sides of the edge of the buffer, and that nothing is written but the
buffer.
-/

namespace Ks959.Device
open CMemory Numerals Occurrences

/-- A decimal digit or a small letter from `a` to `f`. -/
def IsLowerHex (c : UInt16) : Prop := 0x30 ≤ c ∧ c ≤ 0x39 ∨ 0x61 ≤ c ∧ c ≤ 0x66

/-- The lower-case hexadecimal form of a number, in four digits. -/
structure Hex4 (n : UInt16) (digits : List UInt16) : Prop where
  length : digits.length = 4
  lower : ∀ c ∈ digits, IsLowerHex c
  value : magnitude 16 (digits.map UInt16.toUInt8) = n.toNat

/-- `vid_XXXX&pid_YYYY`. -/
inductive Identifier (vid pid : UInt16) : List UInt16 → Prop where
  | intro (x y : List UInt16) (hexVid : Hex4 vid x) (hexPid : Hex4 pid y) :
      Identifier vid pid
        (wide ['v', 'i', 'd', '_'] ++ x ++ wide ['&', 'p', 'i', 'd', '_'] ++ y)

/-- The same character, or an ASCII letter in either case. -/
inductive SameLetter : UInt16 → UInt16 → Prop where
  | refl (c : UInt16) : SameLetter c c
  | capital (c : UInt16) (low : 0x61 ≤ c) (high : c ≤ 0x7A) : SameLetter (c - 0x20) c
  | small (c : UInt16) (low : 0x61 ≤ c) (high : c ≤ 0x7A) : SameLetter c (c - 0x20)

/-- The memory a call starts in. -/
def callMem (stack : Vector UInt16 2048) (path : WPath) : Mem PathObject UInt16
  | .devicePath => path.cells
  | .lowerPath => stack.toList

/-- The loop and the terminator of a call write the start of the buffer and nothing else. -/
def FillsBuffer (stack : Vector UInt16 2048) (path : WPath) : Prop :=
  ∃ i loop final written, foldLoop (2048 - 1) 0 (callMem stack path) = some (i, loop) ∧
    loop.store .lowerPath i 0 = some final ∧ written.length ≤ 2048 ∧
    final = (callMem stack path).splice .lowerPath written

instance (c : UInt16) : Decidable (IsLowerHex c) :=
  inferInstanceAs (Decidable (_ ∨ _))

variable {c d n vid pid : UInt16} {x word text : List UInt16}

/-- A digit that has been written has its value. -/
lemma digitValue_hexDigit : ∀ d < 16, digitValue (hexDigit d).toUInt8 = d := by decide

/-- Digits are written as lower-case hexadecimal ones. -/
lemma isLowerHex_hexDigit : ∀ d < 16, IsLowerHex (hexDigit d) := by decide

/-- A digit is the one that its value is written with. -/
lemma hexDigit_digitValue (lower : IsLowerHex c) :
    digitValue c.toUInt8 < 16 ∧ hexDigit (digitValue c.toUInt8) = c := by
  have all : ∀ k < 0x67, IsLowerHex (UInt16.ofNat k) →
      digitValue (UInt16.ofNat k).toUInt8 < 16 ∧
        hexDigit (digitValue (UInt16.ofNat k).toUInt8) = UInt16.ofNat k := by decide
  have lt : c.toNat < 0x67 := by
    obtain ⟨_, high⟩ | ⟨_, high⟩ := lower
    · exact Nat.lt_of_le_of_lt (UInt16.le_iff_toNat_le.mp high) (by decide)
    · exact Nat.lt_of_le_of_lt (UInt16.le_iff_toNat_le.mp high) (by decide)
  have here := all c.toNat lt
  rw [UInt16.ofNat_toNat] at here
  exact here lower

/-- The number that four hexadecimal digits stand for. -/
lemma magnitude_four (a b c d : UInt8) :
    magnitude 16 [a, b, c, d]
      = 4096 * digitValue a + 256 * digitValue b + 16 * digitValue c + digitValue d := by
  simp only [magnitude, List.reverse_cons, List.reverse_nil, List.nil_append, List.cons_append,
    List.map_cons, List.map_nil, Nat.ofDigits_cons, Nat.ofDigits_nil]
  ring

/-- `%04x` writes the four digits. -/
lemma hex4_formatHex4 (n : UInt16) : Hex4 n (formatHex4 n) := by
  have small (k : Nat) : n.toNat >>> k % 16 < 16 := Nat.mod_lt _ (by decide)
  refine ⟨rfl, fun c mem => ?_, ?_⟩
  · obtain ⟨k, _, rfl⟩ := List.mem_map.mp mem
    exact isLowerHex_hexDigit _ (small k)
  · have lt : n.toNat < 65536 := n.toNat_lt
    simp only [formatHex4, List.map_cons, List.map_nil, magnitude_four,
      digitValue_hexDigit _ (small _)]
    omega

/-- There are no others. -/
lemma Hex4.eq_formatHex4 (hex : Hex4 n x) : x = formatHex4 n := by
  obtain ⟨a, b, c, d, rfl⟩ := List.length_eq_four.mp hex.length
  have digit (e : UInt16) (mem : e ∈ [a, b, c, d]) := hexDigit_digitValue (hex.lower e mem)
  obtain ⟨ltA, eqA⟩ := digit a (by simp)
  obtain ⟨ltB, eqB⟩ := digit b (by simp)
  obtain ⟨ltC, eqC⟩ := digit c (by simp)
  obtain ⟨ltD, eqD⟩ := digit d (by simp)
  have value := hex.value
  simp only [List.map_cons, List.map_nil, magnitude_four] at value
  have valueA : n.toNat >>> 12 % 16 = digitValue a.toUInt8 := by omega
  have valueB : n.toNat >>> 8 % 16 = digitValue b.toUInt8 := by omega
  have valueC : n.toNat >>> 4 % 16 = digitValue c.toUInt8 := by omega
  have valueD : n.toNat >>> 0 % 16 = digitValue d.toUInt8 := by omega
  simp only [formatHex4, List.map_cons, List.map_nil, valueA, valueB, valueC, valueD, eqA, eqB, eqC,
    eqD]

/-- The pattern of the matcher is the identifier. -/
lemma identifier_iff : Identifier vid pid word ↔ word = pattern vid pid := by
  constructor
  · intro identifier
    cases identifier with
    | intro x y hexVid hexPid => rw [hexVid.eq_formatHex4, hexPid.eq_formatHex4, pattern]
  · rintro rfl
    exact .intro _ _ (hex4_formatHex4 vid) (hex4_formatHex4 pid)

example : pattern 0x07D0 0x4959 = wide
    ['v', 'i', 'd', '_', '0', '7', 'd', '0', '&', 'p', 'i', 'd', '_', '4', '9', '5', '9'] := by
  decide

/-- Folding adds `0x20` to the capitals. -/
lemma toNat_foldCase (c : UInt16) :
    (foldCase c).toNat = if 0x41 ≤ c.toNat ∧ c.toNat ≤ 0x5A then c.toNat + 0x20 else c.toNat := by
  have capital_iff : (0x41 ≤ c ∧ c ≤ 0x5A) ↔ 0x41 ≤ c.toNat ∧ c.toNat ≤ 0x5A :=
    and_congr UInt16.le_iff_toNat_le UInt16.le_iff_toNat_le
  by_cases capital : 0x41 ≤ c ∧ c ≤ 0x5A
  · obtain ⟨low, high⟩ := capital_iff.mp capital
    have alphabet : (c - 0x41).toNat = c.toNat - 0x41 := UInt16.toNat_sub_of_le _ _ capital.1
    rw [foldCase, if_pos capital, if_pos ⟨low, high⟩, UInt16.toNat_add, alphabet]
    change (c.toNat - 0x41 + 0x61) % 65536 = c.toNat + 0x20
    omega
  · rw [foldCase, if_neg capital, if_neg (mt capital_iff.mpr capital)]

/-- The capital of a lower-case letter. -/
lemma toNat_capital (low : 0x61 ≤ c.toNat) : (c - 0x20).toNat = c.toNat - 0x20 := by
  have le : 0x20 ≤ c := UInt16.le_iff_toNat_le.mpr (le_trans (by decide) low)
  exact UInt16.toNat_sub_of_le _ _ le

/-- The capital of a small letter is folded to the letter. -/
lemma foldCase_capital (low : 0x61 ≤ c) (high : c ≤ 0x7A) : foldCase (c - 0x20) = foldCase c := by
  rw [UInt16.le_iff_toNat_le] at low high
  have bounds : 0x61 ≤ c.toNat ∧ c.toNat ≤ 0x7A := ⟨low, high⟩
  rw [← UInt16.toNat_inj, toNat_foldCase, toNat_foldCase, toNat_capital low]
  split_ifs <;> omega

/-- A character that is folded to another one is its capital. -/
lemma capital_of_shift (shift : c.toNat + 0x20 = d.toNat) (low : 0x61 ≤ d.toNat)
    (high : d.toNat ≤ 0x7A) : c = d - 0x20 ∧ 0x61 ≤ d ∧ d ≤ 0x7A := by
  refine ⟨?_, UInt16.le_iff_toNat_le.mpr low, UInt16.le_iff_toNat_le.mpr high⟩
  rw [← UInt16.toNat_inj, toNat_capital low, ← shift, Nat.add_sub_cancel]

/-- Folding puts the two cases of a letter together, and nothing else. -/
lemma sameLetter_iff : SameLetter c d ↔ foldCase c = foldCase d := by
  constructor
  · intro same
    cases same with
    | refl => rfl
    | capital _ low high => exact foldCase_capital low high
    | small _ low high => exact (foldCase_capital low high).symm
  · intro same
    have values := congrArg UInt16.toNat same
    rw [toNat_foldCase, toNat_foldCase] at values
    -- the characters are equal, or one of them is the capital of the other
    split_ifs at values with capitalC capitalD capitalD
    · rw [UInt16.toNat_inj.mp (Nat.add_right_cancel values)]
      exact .refl d
    · obtain ⟨rfl, low, high⟩ := capital_of_shift values (by omega) (by omega)
      exact .capital d low high
    · obtain ⟨rfl, low, high⟩ := capital_of_shift values.symm (by omega) (by omega)
      exact .small c low high
    · rw [UInt16.toNat_inj.mp values]
      exact .refl d

/-- Folding leaves a lower-case digit alone. -/
lemma foldCase_lower (lower : IsLowerHex c) : foldCase c = c := by
  refine if_neg ?_
  rintro ⟨low, high⟩
  obtain ⟨_, below⟩ | ⟨above, _⟩ := lower
  · exact absurd (UInt16.le_trans low below) (by decide)
  · exact absurd (UInt16.le_trans above high) (by decide)

/-- Folding leaves the four digits of an id alone. -/
lemma map_foldCase_formatHex4 (n : UInt16) : (formatHex4 n).map foldCase = formatHex4 n :=
  (List.map_congr_left fun c mem => foldCase_lower ((hex4_formatHex4 n).lower c mem)).trans
    (List.map_id _)

/-- An identifier is its own folded form. -/
lemma map_foldCase_pattern (vid pid : UInt16) :
    (pattern vid pid).map foldCase = pattern vid pid := by
  have head : (wide ['v', 'i', 'd', '_']).map foldCase = wide ['v', 'i', 'd', '_'] := by decide
  have middle : (wide ['&', 'p', 'i', 'd', '_']).map foldCase = wide ['&', 'p', 'i', 'd', '_'] := by
    decide
  rw [pattern, List.map_append, List.map_append, List.map_append, head, middle,
    map_foldCase_formatHex4, map_foldCase_formatHex4]

/-- The pattern is not empty. -/
lemma pattern_ne_nil (vid pid : UInt16) : pattern vid pid ≠ [] := List.cons_ne_nil _ _

/-- `wcsstr` finds every occurrence. -/
lemma wcsstr_isSome_iff : (wcsstr word text).isSome = true ↔ word <:+: text := by
  induction text with
  | nil =>
    rw [wcsstr, List.infix_nil, ← List.prefix_nil, ← List.isPrefixOf_iff_prefix]
    split_ifs with here
    · exact iff_of_true rfl here
    · exact iff_of_false Bool.false_ne_true here
  | cons c text ih =>
    rw [wcsstr, List.infix_cons_iff, ← List.isPrefixOf_iff_prefix, ← ih]
    split_ifs with here
    · exact iff_of_true rfl (.inl here)
    · rw [Option.isSome_map, or_iff_right here]

/-- The loop and the terminator stay inside the buffer. -/
lemma fillsBuffer (stack : Vector UInt16 2048) (path : WPath) : FillsBuffer stack path := by
  obtain ⟨loop, store⟩ :=
    foldLoop_terminated (m := callMem stack path) path Vector.length_toList rfl
  refine ⟨_, _, _, folded path ++ [0], loop, store, ?_, rfl⟩
  rw [List.length_append]
  exact Nat.succ_le_succ (length_folded path)

/-- The matcher runs through and finds the identifiers, in any mix of letter cases, that end within
    the first 2047 characters; and it writes its buffer only. -/
theorem path_match_exact (stack : Vector UInt16 2048) (path : WPath) (vid pid : UInt16) :
    ∃ found, pathContainsVidPid stack (some path) vid pid = some found ∧
      FillsBuffer stack path ∧
      (found = true ↔ ∃ k w, Identifier vid pid w ∧ OccursAt w (path.chars.map foldCase) k ∧
        k + w.length ≤ 2047) ∧
      (path.chars.length ≤ 2047 → (found = true ↔ ∃ u w, Identifier vid pid w ∧ u <:+: path.chars ∧
        List.Forall₂ SameLetter u w)) := by
  refine ⟨_, pathContainsVidPid_eq stack path vid pid, fillsBuffer stack path, ?_, fun short => ?_⟩
  · simp only [identifier_iff, exists_eq_left]
    rw [wcsstr_isSome_iff, List.map_take]
    exact infix_take_iff (pattern_ne_nil vid pid)
  · have same : SameLetter = fun c d => foldCase c = foldCase d := by
      funext c d
      exact propext sameLetter_iff
    simp only [identifier_iff, exists_eq_left, same]
    rw [wcsstr_isSome_iff, List.take_of_length_le short]
    exact infix_map_iff_same (map_foldCase_pattern vid pid)

end Ks959.Device
