import Ks959.Rx.Session

/-!
# What the decoder keeps of its input

Two calls on chunks of one length end alike whatever the bytes are, and hand out the same bytes
exactly when the chunks agree outside the garbage slots. Nothing is out of reach: `rxEncode` builds
a chunk for every target. `decoder_information` says both.
-/

namespace Ks959.Rx
open CMemory

/-- A chunk that decodes to `target`, a zero in each garbage slot. -/
def rxEncode : UInt8 → List UInt8 → List UInt8
  | _, [] => []
  | s, b :: target =>
    if s + 1 = 0 then
      0 :: (b ^^^ 1 ^^^ 0x55) :: rxEncode 1 target
    else
      (b ^^^ (s + 1) ^^^ 0x55) :: rxEncode (s + 1) target

variable {ι κ : Type} [DecidableEq ι] [DecidableEq κ] {s b : UInt8} {xs ys : List UInt8}

/-- Unmasking twice with one counter is doing nothing. -/
lemma unmask_involutive (k : Nat) : Function.Involutive (unmask k) := fun _ => xor_twice _ _ _

/-- `rxEncode` is a right inverse of the decoder. -/
lemma output_rxEncode (s : UInt8) (target : List UInt8) :
    rxDecoder.output s (rxEncode s target) = target := by
  induction target generalizing s with
  | nil => rfl
  | cons b target ih =>
    rcases eq_or_ne (s + 1) 0 with wrap | keep
    · have after : rxDecoder.emit 0 (b ^^^ 1 ^^^ 0x55) = some b := emit_masked (by decide)
      have rest : rxDecoder.output (0 + 1) (rxEncode 1 target) = target := ih 1
      rw [rxEncode, if_pos wrap, Transducer.output_cons, emit_none wrap, next_eq, wrap,
        Transducer.output_cons, after, next_eq, rest]
      rfl
    · rw [rxEncode, if_neg keep, Transducer.output_cons, emit_masked keep, next_eq, ih]
      rfl

/-- The counter moves and the slots are dropped whatever the bytes are. -/
lemma rxDecoder_oblivious : rxDecoder.Oblivious where
  next _ _ _ := rfl
  emits s x y := by
    rcases eq_or_ne (s + 1) 0 with wrap | keep
    · rw [emit_none wrap, emit_none wrap]
    · rw [emit_some keep, emit_some keep]
      rfl

/-- In a slot that is kept two bytes are told apart, in a garbage slot they are not. -/
lemma emit_eq_iff {x y : UInt8} :
    rxDecoder.emit (rxDecoder.final s xs) x = rxDecoder.emit (rxDecoder.final s xs) y
      ↔ ((s.toNat + xs.length + 1) % 256 ≠ 0 → x = y) := by
  rw [Ne, ← Nat.dvd_iff_mod_eq_zero]
  constructor
  · intro same keep
    rw [emit_final keep, emit_final keep, Option.some.injEq] at same
    exact (unmask_involutive _).injective same
  · intro equal
    by_cases garbage : 256 ∣ s.toNat + xs.length + 1
    · have dropped (z : UInt8) : rxDecoder.emit (rxDecoder.final s xs) z = none := by
        rw [← Option.not_isSome_iff_eq_none, emit_final_isSome]
        exact not_not.mpr garbage
      rw [dropped, dropped]
    · rw [equal garbage]

/-- Two chunks of one length decode to the same bytes exactly when they agree in the kept slots. -/
lemma output_eq_iff (len : xs.length = ys.length) :
    rxDecoder.output s xs = rxDecoder.output s ys
      ↔ ∀ i < xs.length, (s.toNat + i + 1) % 256 ≠ 0 → xs[i]? = ys[i]? := by
  rw [rxDecoder_oblivious.output_eq_iff len]
  constructor
  · intro same i lt keep
    have lt' : i < ys.length := len ▸ lt
    have at_i := same i xs[i] ys[i] (List.getElem?_eq_getElem lt) (List.getElem?_eq_getElem lt')
    rw [emit_eq_iff, List.length_take_of_le lt.le] at at_i
    rw [List.getElem?_eq_getElem lt, List.getElem?_eq_getElem lt', at_i keep]
  · intro agree i x y atX atY
    obtain ⟨lt, _⟩ := List.getElem?_eq_some_iff.mp atX
    rw [emit_eq_iff, List.length_take_of_le lt.le]
    intro keep
    have same := agree i lt keep
    rw [atX, atY, Option.some.injEq] at same
    exact same

omit [DecidableEq ι] in
/-- The bytes of a chunk are those in the buffer. -/
lemma RxCall.getElem?_chunk {c : RxCall ι} {i : Nat} (lt : i < c.inLen) :
    c.chunk[i]? = c.mem.load c.inBuf i := by
  rw [RxCall.chunk, List.getElem?_take_of_lt lt, Mem.load]

/-- A call on an encoded target hands out the target. -/
lemma RxCall.succeeded_rxEncode {c : RxCall ι} {target : List UInt8}
    (chunk : c.chunk = rxEncode s target) (room : target.length ≤ c.outBufSize) :
    ∃ s', c.succeeded ⟨s⟩ = some (s', target) := by
  have decoded : c.decoded ⟨s⟩ = target := by
    rw [RxCall.decoded, chunk, output_rxEncode]
  have fits : decodedLength s c.inLen ≤ c.outBufSize := by
    have len := RxCall.length_decoded (c := c) (s := ⟨s⟩)
    rw [decoded] at len
    exact len ▸ room
  rw [RxCall.succeeded_of_fits fits, decoded]
  exact ⟨_, rfl⟩

/-- From any state, successful calls on chunks of one length differ in nothing but the bytes of the
    kept slots, and every byte sequence is the output of some chunk. -/
theorem decoder_information (s : UInt8) :
    (∀ (c₁ : RxCall ι) (c₂ : RxCall κ), c₁.inLen = c₂.inLen →
      decodedLength s c₁.inLen ≤ c₁.outBufSize → decodedLength s c₂.inLen ≤ c₂.outBufSize →
      ∃ s' out₁ out₂, c₁.succeeded ⟨s⟩ = some (s', out₁) ∧ c₂.succeeded ⟨s⟩ = some (s', out₂) ∧
        out₁.length = out₂.length ∧
        (out₁ = out₂ ↔ ∀ i < c₁.inLen, (s.toNat + i + 1) % 256 ≠ 0 →
          c₁.mem.load c₁.inBuf i = c₂.mem.load c₂.inBuf i)) ∧
    ∀ target out : List UInt8, target.length ≤ out.length →
      ∃ s', (RxCall.ofBuffers (rxEncode s target) out).succeeded ⟨s⟩ = some (s', target) := by
  constructor
  · intro c₁ c₂ len room₁ room₂
    have lengths : c₁.chunk.length = c₂.chunk.length := by
      rw [RxCall.length_chunk, RxCall.length_chunk, len]
    have states : rxDecoder.final s c₂.chunk = rxDecoder.final s c₁.chunk :=
      (rxDecoder_oblivious.final_eq lengths).symm
    have run₂ := RxCall.succeeded_of_fits (c := c₂) (s := ⟨s⟩) room₂
    rw [states] at run₂
    refine ⟨_, _, _, RxCall.succeeded_of_fits room₁, run₂, ?_, ?_⟩
    · rw [RxCall.length_decoded, RxCall.length_decoded, len]
    · rw [RxCall.decoded, RxCall.decoded, output_eq_iff lengths, RxCall.length_chunk]
      refine forall₂_congr fun i lt => imp_congr_right fun _ => ?_
      rw [RxCall.getElem?_chunk lt, RxCall.getElem?_chunk (len ▸ lt)]
  · intro target out room
    exact RxCall.succeeded_rxEncode (List.take_length ..) room

/-- Two calls around the wrap: the garbage bytes differ, the letters do not. -/
theorem decoder_information_wrap :
    ∃ s' out, (RxCall.ofBuffers [0xEB, 0x99, 0x16] [0, 0]).succeeded ⟨254⟩ = some (s', out) ∧
      (RxCall.ofBuffers [0xEB, 0x00, 0x16] [7, 7, 7]).succeeded ⟨254⟩ = some (s', out) := by
  obtain ⟨s', out₁, out₂, run₁, run₂, _, same⟩ :=
    (decoder_information (ι := Bool) (κ := Bool) 254).1
      (RxCall.ofBuffers [0xEB, 0x99, 0x16] [0, 0])
      (RxCall.ofBuffers [0xEB, 0x00, 0x16] [7, 7, 7]) rfl (by decide) (by decide)
  have equal : out₁ = out₂ := by
    rw [same]
    decide
  exact ⟨s', out₁, run₁, equal ▸ run₂⟩

end Ks959.Rx
