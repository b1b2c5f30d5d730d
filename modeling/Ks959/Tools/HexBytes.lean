import Ks959.Lib.Memory
import Ks959.Lib.Numerals
import Ks959.Lib.Tokens

/-!
# The payload argument (`ks959-control-test.c`)

`parseHexBytes` reads a list such as `01,AA,FF`. It walks over the tokens that `strtok_s` cuts off
and has each converted by `strtoul`. Both are more liberal than the list they are asked to read:
`strtok_s` passes over empty fields, `strtoul` over blanks, and it takes a sign.

`Documented` is the language of the usage text. `documented_iff` compares the parser with it on
every argument and capacity: the two differ on the arguments that are accepted although a field is
empty or starts with a blank or a sign.
-/

namespace Ks959.Tools
open CMemory Numerals Tokens

/-- A NUL-terminated string, written without its terminator. -/
structure CString where
  chars : List UInt8
  noNul : 0 ∉ chars
deriving DecidableEq

/-- What `parse_hex_bytes` returns and leaves behind its pointers. -/
structure HexBytes (ι : Type) where
  ret : Bool
  inOutLength : Option UInt16
  mem : Mem ι UInt8

/-- The separator `,`. -/
def comma : UInt8 := 0x2C

/-- The byte that a token stands for, `none` where the loop gives up. -/
def tokenByte (token : List UInt8) : Option UInt8 :=
  let (value, rest) := strtoul 16 token
  if rest = token ∨ rest ≠ [] ∨ value > 0xFF then none else some value.toUInt8

variable {ι : Type} [DecidableEq ι]

/-- The loop over the tokens; `text` is where `strtok_s` goes on. -/
def tokenLoop (buffer : ι) (capacity : UInt16) (text : List UInt8) (count : UInt16)
    (mem : Mem ι UInt8) : Option (HexBytes ι) :=
  match _found : strtokS (· == comma) text with
  | none => some ⟨true, some count, mem⟩
  | some (token, context) =>
    if count ≥ capacity then some ⟨false, some capacity, mem⟩
    else
      match tokenByte token with
      | none => some ⟨false, some capacity, mem⟩
      | some value => do
        let mem ← mem.store buffer count.toNat value
        tokenLoop buffer capacity context (count + 1) mem
termination_by text.length
decreasing_by exact strtokS_shorter _found

/-- `parse_hex_bytes`; `strdup` tells whether there is memory for the copy. -/
def parseHexBytes (strdup : Bool) (s : Option CString) (buffer : Option ι)
    (inOutLength : Option UInt16) (mem : Mem ι UInt8) : Option (HexBytes ι) :=
  match s, buffer, inOutLength with
  | some s, some buffer, some capacity =>
    if strdup = false then some ⟨false, some capacity, mem⟩
    else tokenLoop buffer capacity s.chars 0 mem
  | _, _, _ => some ⟨false, inOutLength, mem⟩

/-- A field of the list: hexadecimal digits, with or without `0x`, of the value of a byte. -/
inductive HexField : List UInt8 → UInt8 → Prop where
  | intro (lead digits : List UInt8) (b : UInt8) (isLead : IsLead 16 lead)
      (digit : ∀ c ∈ digits, isDigit 16 c = true) (nonempty : digits ≠ [])
      (value : magnitude 16 digits = b.toNat) : HexField (lead ++ digits) b

/-- The documented arguments, with the bytes they stand for: at most `capacity` fields, separated by
    commas. -/
def Documented (capacity : Nat) (text bytes : List UInt8) : Prop :=
  ∃ fields, text = [comma].intercalate fields ∧ fields.length ≤ capacity ∧
    List.Forall₂ HexField fields bytes

/-- What `parse_hex_bytes` is to do. -/
structure ParsesDocumented (mem : Mem ι UInt8) (buffer : ι) (capacity : UInt16)
    (text : List UInt8) (p : HexBytes ι) : Prop where
  accepts : p.ret = true ↔ ∃ bytes, Documented capacity.toNat text bytes
  stores : p.ret = true → ∀ bytes, Documented capacity.toNat text bytes →
    p.mem = mem.splice buffer bytes ∧ p.inOutLength.map UInt16.toNat = some bytes.length
  keeps : p.ret = false → p.inOutLength = some capacity ∧
    ∃ written, written.length ≤ capacity.toNat ∧ p.mem = mem.splice buffer written

/-- The fields of a text; the empty text has none. -/
def fieldsOf (text : List UInt8) : List (List UInt8) :=
  if text = [] then [] else text.splitOn comma

/-- A field that is not empty and starts with neither a blank nor a sign. -/
def Unsigned (field : List UInt8) : Prop :=
  ∃ c cs, field = c :: cs ∧ isSpace c = false ∧ c ≠ 0x2B ∧ c ≠ 0x2D

instance : ∀ field, Decidable (Unsigned field)
  | [] => isFalse (by rintro ⟨_, _, ⟨⟩, _⟩)
  | c :: cs =>
    decidable_of_iff (isSpace c = false ∧ c ≠ 0x2B ∧ c ≠ 0x2D)
      ⟨fun first => ⟨c, cs, rfl, first⟩, by rintro ⟨_, _, ⟨⟩, first⟩; exact first⟩

/-- A token that `strtoul` reads to its end, with the value of a byte. -/
def Readable (token : List UInt8) : Prop := ∃ n : Numeral 16, n.text = token ∧ n.value ≤ 0xFF

/-- There are more tokens than bytes, or one of them cannot be read. -/
def Refused (capacity : Nat) (text : List UInt8) : Prop :=
  capacity < (tokens (· == comma) text).length ∨ ∃ t ∈ tokens (· == comma) text, ¬ Readable t

variable {field token text bytes : List UInt8} {b : UInt8} {capacity : Nat}

/-- A comma is no digit. -/
lemma comma_not_digit : isDigit 16 comma = false := by decide

/-- A value up to 255 is kept by the cast to a byte. -/
lemma byte_of_value {v : UInt32} (small : v ≤ 0xFF) : v.toUInt8.toNat = v.toNat := by
  rw [UInt32.le_iff_toNat_le] at small
  rw [UInt32.toNat_toUInt8]
  exact Nat.mod_eq_of_lt (Nat.lt_succ_of_le small)

/-- The tokens that the loop takes are the numerals of the value of a byte. -/
lemma tokenByte_iff :
    tokenByte token = some b ↔
      ∃ n : Numeral 16, n.text = token ∧ n.value ≤ 0xFF ∧ n.value.toUInt8 = b := by
  constructor
  · intro read
    rw [tokenByte] at read
    obtain ⟨value, rest, conv⟩ : ∃ value rest, strtoul 16 token = (value, rest) := ⟨_, _, rfl⟩
    rw [conv] at read
    dsimp only at read
    split_ifs at read with bad
    obtain ⟨moved, ended, small⟩ := not_or.mp bad |>.imp_right not_or.mp
    rw [not_not] at ended
    subst ended
    obtain ⟨n, text, val⟩ := (whole_iff (by decide)).mp ⟨conv, Ne.symm moved⟩
    exact ⟨n, text, val ▸ UInt32.not_lt.mp small, val ▸ Option.some.inj read⟩
  · rintro ⟨n, text, small, rfl⟩
    obtain ⟨conv, nonempty⟩ := (whole_iff (by decide)).mpr ⟨n, text, rfl⟩
    rw [tokenByte, conv]
    refine if_neg ?_
    rintro (moved | ended | large)
    · exact nonempty moved.symm
    · exact ended rfl
    · exact absurd small (UInt32.not_le.mpr large)

/-- The readable tokens are those that the tool reads as a byte. -/
lemma readable_iff : Readable token ↔ ∃ b, tokenByte token = some b := by
  constructor
  · rintro ⟨n, text, small⟩
    exact ⟨_, tokenByte_iff.mpr ⟨n, text, small, rfl⟩⟩
  · rintro ⟨b, read⟩
    obtain ⟨n, text, small, _⟩ := tokenByte_iff.mp read
    exact ⟨n, text, small⟩

/-- A numeral whose text starts with neither is without blanks and sign. -/
lemma Unsigned.bare {n : Numeral 16} (unsigned : Unsigned n.text) :
    n.blanks = [] ∧ n.sign = .none := by
  obtain ⟨c, cs, text, space, plus, minus⟩ := unsigned
  rw [Numeral.text] at text
  cases blanks : n.blanks with
  | cons d ds =>
    rw [blanks] at text
    cases text
    have blank := n.blank c (blanks ▸ List.mem_cons_self)
    cases space.symm.trans blank
  | nil =>
    rw [blanks, List.nil_append] at text
    cases sign : n.sign with
    | none => exact ⟨rfl, rfl⟩
    | plus => rw [sign] at text; cases text; exact absurd rfl plus
    | minus => rw [sign] at text; cases text; exact absurd rfl minus

/-- The value of digits without a sign. -/
lemma word_none_le {m : Nat} :
    word .none m ≤ 0xFF ∧ (word .none m).toUInt8 = b ↔ m = b.toNat := by
  constructor
  · rintro ⟨small, rfl⟩
    rw [byte_of_value small]
    unfold word at small ⊢
    split_ifs at small ⊢ with large
    · exact absurd small (by decide)
    · exact (UInt32.toNat_ofNat_of_lt' (not_le.mp large)).symm
  · rintro rfl
    have lt := b.toNat_lt
    have fits : ¬ 2 ^ 32 ≤ b.toNat := by omega
    rw [word, if_neg fits]
    have value : (UInt32.ofNat b.toNat).toNat = b.toNat :=
      UInt32.toNat_ofNat_of_lt' (not_le.mp fits)
    have small : UInt32.ofNat b.toNat ≤ 0xFF := by
      rw [UInt32.le_iff_toNat_le, value]
      exact Nat.le_of_lt_succ lt
    exact ⟨small, UInt8.toNat_inj.mp ((byte_of_value small).trans value)⟩

/-- The fields of the documented list are the tokens that can be read, without blanks and signs. -/
lemma hexField_iff : HexField field b ↔ tokenByte field = some b ∧ Unsigned field := by
  constructor
  · intro hex
    cases hex with
    | intro lead digits _ isLead digit nonempty value =>
      let n : Numeral 16 := ⟨[], .none, lead, digits, nofun, isLead, digit, nonempty⟩
      refine ⟨tokenByte_iff.mpr ⟨n, rfl, word_none_le.mpr value⟩, ?_⟩
      obtain ⟨c, cs, text, first⟩ := n.starts (by decide)
      exact ⟨c, cs, text, isSpace_of_digit first, not_sign_of_digit first⟩
  · rintro ⟨read, unsigned⟩
    obtain ⟨n, rfl, value⟩ := tokenByte_iff.mp read
    obtain ⟨blanks, sign⟩ := unsigned.bare
    rw [Numeral.value, sign, word_none_le] at value
    rw [Numeral.text, blanks, sign]
    exact .intro n.lead n.digits b n.isLead n.digit n.nonempty value

/-- A field is not empty. -/
lemma HexField.nonempty (hex : HexField field b) : field ≠ [] := by
  obtain ⟨c, cs, rfl, _⟩ := (hexField_iff.mp hex).2
  exact List.cons_ne_nil c cs

/-- A field has no comma. -/
lemma HexField.comma_free (hex : HexField field b) : comma ∉ field := by
  cases hex with
  | intro lead digits _ isLead digit =>
    rw [List.mem_append, not_or]
    refine ⟨?_, fun mem => ?_⟩
    · obtain rfl | ⟨_, rfl | rfl⟩ := isLead <;> decide
    · cases comma_not_digit.symm.trans (digit comma mem)

/-- In a list read entry by entry each entry has been read. -/
lemma exists_of_mem {R : List UInt8 → UInt8 → Prop} {ts : List (List UInt8)}
    (related : List.Forall₂ R ts bytes) (mem : token ∈ ts) : ∃ b, R token b := by
  induction related with
  | nil => cases mem
  | cons head _ ih =>
    cases mem with
    | head => exact ⟨_, head⟩
    | tail _ mem => exact ih mem

/-- The documented list falls into its fields in one way only. -/
lemma documented_iff_fields :
    Documented capacity text bytes ↔
      (fieldsOf text).length ≤ capacity ∧ List.Forall₂ HexField (fieldsOf text) bytes := by
  constructor
  · rintro ⟨fields, rfl, fits, hex⟩
    have same : fieldsOf ([comma].intercalate fields) = fields := by
      cases hex with
      | nil => rfl
      | @cons field b fields bytes head tail =>
        have split := List.splitOn_intercalate comma
          (fun f mem => (exists_of_mem (.cons head tail) mem).elim fun _ hex => hex.comma_free)
          (List.cons_ne_nil field fields)
        rw [fieldsOf, split]
        refine if_neg fun empty => head.nonempty ?_
        rw [empty] at split
        cases split
        rfl
    rw [same]
    exact ⟨fits, hex⟩
  · rintro ⟨fits, hex⟩
    refine ⟨fieldsOf text, ?_, fits, hex⟩
    unfold fieldsOf
    split_ifs with empty
    · exact empty
    · exact (List.intercalate_splitOn comma).symm

/-- Where each field is unsigned the fields are the tokens. -/
lemma tokens_of_unsigned (unsigned : ∀ field ∈ fieldsOf text, Unsigned field) :
    tokens (· == comma) text = fieldsOf text := by
  unfold fieldsOf at unsigned ⊢
  split_ifs at unsigned ⊢ with empty
  · rw [empty]
    rfl
  · rw [List.splitOn_eq_splitOnP] at unsigned ⊢
    refine tokens_eq_splitOnP fun field mem => ?_
    obtain ⟨c, cs, rfl, _⟩ := unsigned field mem
    exact List.cons_ne_nil c cs

/-- The bytes that a list of tokens stands for. -/
def Reads (ts : List (List UInt8)) (bytes : List UInt8) : Prop :=
  List.Forall₂ (fun t b => tokenByte t = some b) ts bytes

/-- Tokens are read as one list of bytes only. -/
lemma Reads.unique {ts : List (List UInt8)} {bytes' : List UInt8} (reads : Reads ts bytes)
    (reads' : Reads ts bytes') : bytes = bytes' := by
  refine Relator.RightUnique.forall₂ ?_ reads reads'
  intro t b b' read read'
  exact Option.some.inj (read.symm.trans read')

/-- Each of the tokens that are read is readable. -/
lemma Reads.readable {ts : List (List UInt8)} (reads : Reads ts bytes) (mem : token ∈ ts) :
    Readable token :=
  readable_iff.mpr (exists_of_mem reads mem)

/-- A documented list is a list of tokens that can be read, none of its fields empty, blank or
    signed. -/
lemma documented_iff_reads :
    Documented capacity text bytes ↔
      Reads (tokens (· == comma) text) bytes ∧ (tokens (· == comma) text).length ≤ capacity ∧
        ∀ field ∈ fieldsOf text, Unsigned field := by
  rw [documented_iff_fields]
  constructor
  · rintro ⟨fits, hex⟩
    have unsigned : ∀ field ∈ fieldsOf text, Unsigned field := by
      intro field mem
      obtain ⟨b, hex⟩ := exists_of_mem hex mem
      exact (hexField_iff.mp hex).2
    rw [tokens_of_unsigned unsigned]
    exact ⟨hex.imp fun _ _ hex => (hexField_iff.mp hex).1, fits, unsigned⟩
  · rintro ⟨reads, fits, unsigned⟩
    rw [tokens_of_unsigned unsigned] at reads fits
    refine ⟨fits, ?_⟩
    have both := (List.forall₂_and_left _ _).mpr ⟨unsigned, reads⟩
    exact both.imp fun _ _ both => hexField_iff.mpr both.symm

/-- How the loop ends that is given the tokens `ts` when the bytes `written` are in the buffer. -/
inductive Outcome (mem : Mem ι UInt8) (buffer : ι) (capacity : UInt16) (written : List UInt8)
    (ts : List (List UInt8)) : HexBytes ι → Prop where
  | accepted (bytes : List UInt8) (reads : Reads ts bytes)
      (fits : (written ++ bytes).length ≤ capacity.toNat) :
      Outcome mem buffer capacity written ts
        ⟨true, some (UInt16.ofNat (written ++ bytes).length), mem.splice buffer (written ++ bytes)⟩
  | refused (bytes : List UInt8) (fits : (written ++ bytes).length ≤ capacity.toNat)
      (bad : capacity.toNat < written.length + ts.length ∨ ∃ t ∈ ts, ¬ Readable t) :
      Outcome mem buffer capacity written ts
        ⟨false, some capacity, mem.splice buffer (written ++ bytes)⟩

variable {mem : Mem ι UInt8} {buffer : ι} {capacity : UInt16} {written : List UInt8}

/-- One token more. -/
lemma Outcome.cons {ts : List (List UInt8)} {p : HexBytes ι} (read : tokenByte token = some b)
    (outcome : Outcome mem buffer capacity (written ++ [b]) ts p) :
    Outcome mem buffer capacity written (token :: ts) p := by
  cases outcome with
  | accepted bytes reads fits =>
    rw [List.append_assoc] at fits ⊢
    exact .accepted (b :: bytes) (.cons read reads) fits
  | refused bytes fits bad =>
    rw [List.append_assoc] at fits ⊢
    refine .refused (b :: bytes) fits (bad.imp ?_ ?_)
    · intro more
      rw [List.length_append, List.length_singleton] at more
      rw [List.length_cons]
      omega
    · rintro ⟨t, mem, unread⟩
      exact ⟨t, List.mem_cons_of_mem _ mem, unread⟩

/-- The number of bytes fits `uint16_t`. -/
lemma toNat_count (fits : written.length ≤ capacity.toNat) :
    (UInt16.ofNat written.length).toNat = written.length :=
  UInt16.toNat_ofNat_of_lt' (fits.trans_lt capacity.toNat_lt)

/-- No token is left. -/
lemma Outcome.done (fits : written.length ≤ capacity.toNat) :
    Outcome mem buffer capacity written []
      ⟨true, some (UInt16.ofNat written.length), mem.splice buffer written⟩ := by
  have outcome : Outcome mem buffer capacity written []
      ⟨true, some (UInt16.ofNat (written ++ []).length), mem.splice buffer (written ++ [])⟩ :=
    .accepted [] .nil (by rwa [List.append_nil])
  rwa [List.append_nil] at outcome

/-- The loop gives up. -/
lemma Outcome.stop {ts : List (List UInt8)} (fits : written.length ≤ capacity.toNat)
    (bad : capacity.toNat < written.length + ts.length ∨ ∃ t ∈ ts, ¬ Readable t) :
    Outcome mem buffer capacity written ts
      ⟨false, some capacity, mem.splice buffer written⟩ := by
  have outcome : Outcome mem buffer capacity written ts
      ⟨false, some capacity, mem.splice buffer (written ++ [])⟩ :=
    .refused [] (by rwa [List.append_nil]) bad
  rwa [List.append_nil] at outcome

/-- The loop writes a byte for each token, until there are no more tokens or it gives up. -/
lemma tokenLoop_outcome (text : List UInt8) (room : capacity.toNat ≤ (mem buffer).length)
    (fits : written.length ≤ capacity.toNat) :
    ∃ p, tokenLoop buffer capacity text (UInt16.ofNat written.length) (mem.splice buffer written)
        = some p ∧ Outcome mem buffer capacity written (tokens (· == comma) text) p := by
  induction size : text.length using Nat.strong_induction_on generalizing text written with
  | _ n ih =>
    have count := toNat_count fits
    rw [tokenLoop]
    split
    case h_1 found =>
      rw [tokens_of_none found]
      exact ⟨_, rfl, .done fits⟩
    case h_2 token context found =>
      rw [tokens_of_some found]
      split_ifs with full
      · rw [ge_iff_le, UInt16.le_iff_toNat_le, count] at full
        refine ⟨_, rfl, .stop fits (.inl ?_)⟩
        rw [List.length_cons]
        omega
      · rw [ge_iff_le, UInt16.le_iff_toNat_le, count, not_le] at full
        split
        case h_1 unread =>
          refine ⟨_, rfl, .stop fits (.inr ⟨token, List.mem_cons_self, ?_⟩)⟩
          rw [readable_iff, unread]
          rintro ⟨_, ⟨⟩⟩
        case h_2 value read =>
          have more : (written ++ [value]).length ≤ capacity.toNat := by
            rw [List.length_append, List.length_singleton]
            exact full
          have next :
              UInt16.ofNat written.length + 1 = UInt16.ofNat (written ++ [value]).length := by
            rw [List.length_append, List.length_singleton, UInt16.ofNat_add]
            rfl
          have shorter : context.length < n := size ▸ strtokS_shorter found
          obtain ⟨p, run, outcome⟩ := ih context.length shorter context more rfl
          refine ⟨p, ?_, outcome.cons read⟩
          rw [count, Mem.store_splice (full.trans_le room), next]
          exact run

/-- What is accepted has its tokens read and stored, what is not is refused for a token or for their
    number. -/
lemma parse_outcome (s : CString) (room : capacity.toNat ≤ (mem buffer).length) :
    ∃ p, parseHexBytes true (some s) (some buffer) (some capacity) mem = some p ∧
      Outcome mem buffer capacity [] (tokens (· == comma) s.chars) p := by
  have start : ([] : List UInt8).length ≤ capacity.toNat := Nat.zero_le _
  obtain ⟨p, run, outcome⟩ := tokenLoop_outcome s.chars room start
  rw [Mem.splice_nil] at run
  exact ⟨p, run, outcome⟩

/-- A text that is refused is not read. -/
lemma Refused.not_reads (refused : Refused capacity.toNat text)
    (reads : Reads (tokens (· == comma) text) bytes)
    (fits : (tokens (· == comma) text).length ≤ capacity.toNat) : False := by
  obtain many | ⟨t, mem, unread⟩ := refused
  · exact absurd fits (not_le.mpr many)
  · exact unread (reads.readable mem)

/-- The payload parser does what it is to do exactly for the arguments in which no field is empty or
    starts with a blank or a sign, and for those that are refused in any case. -/
theorem documented_iff (s : CString) (mem : Mem ι UInt8) (buffer : ι) (capacity : UInt16)
    (room : capacity.toNat ≤ (mem buffer).length) :
    ∃ p, parseHexBytes true (some s) (some buffer) (some capacity) mem = some p ∧
      (ParsesDocumented mem buffer capacity s.chars p ↔
        (∀ field ∈ fieldsOf s.chars, Unsigned field) ∨ Refused capacity.toNat s.chars) := by
  obtain ⟨p, run, outcome⟩ := parse_outcome s room
  refine ⟨p, run, ?_⟩
  cases outcome with
  | accepted bytes reads fits =>
    have count : (UInt16.ofNat bytes.length).toNat = bytes.length := toNat_count fits
    rw [List.nil_append, ← reads.length_eq] at fits
    rw [or_iff_left fun refused : Refused _ _ => refused.not_reads reads fits]
    constructor
    · intro parses
      obtain ⟨bytes, documented⟩ := parses.accepts.mp rfl
      exact (documented_iff_reads.mp documented).2.2
    · intro unsigned
      have documented := documented_iff_reads.mpr ⟨reads, fits, unsigned⟩
      refine ⟨iff_of_true rfl ⟨bytes, documented⟩, fun _ bytes' documented' => ?_, nofun⟩
      rw [(documented_iff_reads.mp documented').1.unique reads]
      exact ⟨rfl, congrArg some count⟩
  | refused bytes fits bad =>
    have refused : Refused capacity.toNat s.chars := by
      rwa [List.length_nil, Nat.zero_add] at bad
    refine iff_of_true ⟨iff_of_false nofun ?_, nofun, fun _ => ⟨rfl, bytes, fits, rfl⟩⟩
      (.inr refused)
    rintro ⟨bytes', documented⟩
    obtain ⟨reads, short, _⟩ := documented_iff_reads.mp documented
    exact refused.not_reads reads short

/-- The argument `01,AA`. -/
def plainArgument : CString := ⟨[0x30, 0x31, 0x2C, 0x41, 0x41], by decide⟩

/-- The argument `01,,02`. -/
def doubledArgument : CString := ⟨[0x30, 0x31, 0x2C, 0x2C, 0x30, 0x32], by decide⟩

/-- The payload buffer of `main`. -/
def outBuffer : Mem Unit UInt8 := fun _ => List.replicate 256 0

/-- A list without a doubled separator, without blanks and without signs is parsed as documented. -/
theorem plain_documented :
    ∃ p, parseHexBytes true (some plainArgument) (some ()) (some 256) outBuffer = some p ∧
      ParsesDocumented outBuffer () 256 plainArgument.chars p := by
  obtain ⟨p, run, parses⟩ := documented_iff plainArgument outBuffer () 256
    (by rw [outBuffer, List.length_replicate]; decide)
  refine ⟨p, run, parses.mpr (.inl ?_)⟩
  have fields : fieldsOf plainArgument.chars = [[0x30, 0x31], [0x41, 0x41]] := by decide
  rw [fields]
  decide

/-- The doubled separator of `01,,02` is passed over: two bytes are accepted for three fields. -/
theorem doubled_separator_accepted :
    ∃ p, parseHexBytes true (some doubledArgument) (some ()) (some 256) outBuffer = some p ∧
      p.ret = true ∧ p.inOutLength = some 2 ∧ (p.mem ()).take 2 = [1, 2] ∧
      (¬ ∃ bytes, Documented 256 doubledArgument.chars bytes) ∧
      ¬ ParsesDocumented outBuffer () 256 doubledArgument.chars p := by
  have room : (256 : UInt16).toNat ≤ (outBuffer ()).length := by
    rw [outBuffer, List.length_replicate]
    decide
  have split : tokens (· == comma) doubledArgument.chars = [[0x30, 0x31], [0x30, 0x32]] := by decide
  have reads : Reads (tokens (· == comma) doubledArgument.chars) [1, 2] := by
    rw [split]
    exact .cons (by decide) (.cons (by decide) .nil)
  have undocumented : ¬ ∃ bytes, Documented 256 doubledArgument.chars bytes := by
    rintro ⟨bytes, documented⟩
    exact absurd (documented_iff_reads.mp documented).2.2 (by decide)
  obtain ⟨p, run, outcome⟩ := parse_outcome doubledArgument room
  refine ⟨p, run, ?_⟩
  cases outcome with
  | accepted bytes reads' =>
    cases reads'.unique reads
    have stored : (outBuffer.splice () [1, 2] ()).take ([1, 2] : List UInt8).length = [1, 2] :=
      Mem.take_splice
    exact ⟨rfl, rfl, stored, undocumented, fun parses => undocumented (parses.accepts.mp rfl)⟩
  | refused bytes fits bad =>
    have refused : Refused (256 : UInt16).toNat doubledArgument.chars := by
      rwa [List.length_nil, Nat.zero_add] at bad
    exact (refused.not_reads reads (by rw [split]; decide)).elim

end Ks959.Tools
