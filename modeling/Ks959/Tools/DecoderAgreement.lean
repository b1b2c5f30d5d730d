import Ks959.Rx.Session
import Ks959.Tools.RxPoll

/-!
# The tools' decoders against the library's

The tools decode with copies of their own: in place, or into a second buffer with a break where the
library returns an error. All of them are runs of one decoder (`rxDecoder`), so comparing two of
them is comparing the memory they leave: `inplace_agrees` for the copy that overwrites what it
reads, `bounded_agrees` for the copies that may run out of room.
-/

namespace Ks959.Tools
open CMemory Rx

/-- `ks959_rx_state_t` of `aladin_handshake_probe.c`. -/
structure Ks959RxState where
  xormask : UInt8

/-- What `ks959_rx_decode_chunk` of `aladin_handshake_probe.c` returns and leaves behind. -/
structure ProbeDecoded (ι : Type) where
  state : Ks959RxState
  produced : Nat
  mem : Mem ι UInt8

variable {ι : Type} [DecidableEq ι]

/-- `ks959_rx_decode_chunk` of `aladin_handshake_probe.c`: the counter is a field. -/
def probeRxDecodeChunk (state : Ks959RxState) (mem : Mem ι UInt8) (inBuf : ι) (inLen : Nat)
    (outBuf : ι) (outBufSize : Nat) : Option (ProbeDecoded ι) :=
  (rxDecodeChunk state.xormask mem inBuf inLen outBuf outBufSize).map fun d =>
    ⟨⟨d.state⟩, d.produced, d.mem⟩

variable {s : UInt8} {c : RxCall ι}

/-- The decoder that breaks leaves what the decoder's bounded run leaves. -/
lemma rxDecodeChunk_bounded :
    rxDecodeChunk s c.mem c.inBuf c.inLen c.outBuf c.outBufSize
      = some ⟨!(c.bounded ⟨s⟩).complete, (c.bounded ⟨s⟩).state, (c.bounded ⟨s⟩).out.length,
          c.mem.splice c.outBuf (c.bounded ⟨s⟩).out⟩ := by
  rw [rxDecodeChunk, rxDecodeLoop_eq, drive_eq_within c.outBuf_holds c.inBuf_holds]
  rfl

omit [DecidableEq ι] in
/-- A run with limited room hands out what fits. -/
lemma length_bounded :
    (c.bounded ⟨s⟩).out.length = min c.outBufSize (decodedLength s c.inLen) := by
  rw [RxCall.bounded_out, List.length_take, RxCall.length_decoded]

/-- Decoding in place is decoding into a buffer of its own, and the library's decoder may be called
    in place. -/
theorem inplace_agrees (s : UInt8) (c : RxCall ι) (room : c.inLen ≤ c.outBufSize) :
    ∃ d r, rxDecodeInplace c.mem c.inBuf c.inLen s = some d ∧ c.run ⟨s⟩ = some r ∧
      r.status = .ok ∧ r.state = some ⟨d.state⟩ ∧ r.outLen = some d.decodedLen ∧
      (∀ i < d.decodedLen, d.mem.load c.inBuf i = r.mem.load c.outBuf i) ∧
      (∀ i, d.decodedLen ≤ i → d.mem.load c.inBuf i = c.mem.load c.inBuf i) ∧
      (∀ q, q ≠ c.inBuf → d.mem q = c.mem q) ∧
      ∀ outBufSize outLen, c.inLen ≤ outBufSize → outBufSize ≤ (c.mem c.inBuf).length →
        protoDeobfuscateRxChunk c.mem (some ⟨s⟩) (some c.inBuf) c.inLen (some c.inBuf) outBufSize
          (some outLen) = some ⟨.ok, some ⟨d.state⟩, some d.decodedLen, d.mem⟩ := by
  have fits : decodedLength s c.inLen ≤ c.outBufSize := (decodedLength_le s c.inLen).trans room
  refine ⟨_, _, rxDecodeInplace_eq s c.inBuf_holds, RxCall.run_of_fits fits, rfl, rfl, ?_, ?_, ?_,
    ?_, ?_⟩
  · rw [length_output, List.length_take_of_le c.inBuf_holds]
  · intro i lt
    have lt' : i < (c.decoded ⟨s⟩).length := lt
    exact (Mem.load_splice_inside lt).trans (Mem.load_splice_inside lt').symm
  · intro i ge
    exact Mem.load_splice fun _ => ge
  · intro q ne
    exact Mem.splice_other ne
  · intro outBufSize outLen enough holds
    let inPlace : RxCall ι := ⟨c.mem, c.inBuf, c.inLen, c.inBuf, outBufSize, outLen,
      c.inBuf_holds, holds⟩
    have fits' : decodedLength s c.inLen ≤ outBufSize := (decodedLength_le s c.inLen).trans enough
    have run := RxCall.run_of_fits (c := inPlace) (s := ⟨s⟩) fits'
    rw [length_output, List.length_take_of_le c.inBuf_holds]
    exact run

/-- A call on three bytes, with the wrap of the counter at the second. -/
def wrapCall : RxCall Bool where
  mem p := if p then [0, 0, 0, 0] else [0xEB, 0x99, 0x16]
  inBuf := false
  inLen := 3
  outBuf := true
  outBufSize := 4
  outLen := 0
  inBuf_holds := le_rfl
  outBuf_holds := le_rfl

/-- `AB` with the garbage byte of the wrap between the two letters. -/
theorem inplace_agrees_wrap :
    ∃ (c : RxCall Bool) (d : RxInplace Bool) (r : RxReturn Bool),
      c.chunk = [0xEB, 0x99, 0x16] ∧ rxDecodeInplace c.mem c.inBuf c.inLen 254 = some d ∧
      c.run ⟨254⟩ = some r ∧ r.outLen = some d.decodedLen ∧ d.decodedLen = 2 := by
  obtain ⟨d, r, inplace, library, _, _, len, _⟩ := inplace_agrees 254 wrapCall (by decide)
  have two : (rxDecodeInplace wrapCall.mem wrapCall.inBuf wrapCall.inLen 254).map
      RxInplace.decodedLen = some 2 := rfl
  rw [inplace] at two
  exact ⟨wrapCall, d, r, rfl, inplace, library, len, Option.some.inj two⟩

/-- With room or without, the tools' decoders and the library's end in the same state and leave the
    same memory; the count says which of the two it was. -/
theorem bounded_agrees (s : UInt8) (c : RxCall ι) :
    ∃ d r, rxDecodeChunk s c.mem c.inBuf c.inLen c.outBuf c.outBufSize = some d ∧
      probeRxDecodeChunk ⟨s⟩ c.mem c.inBuf c.inLen c.outBuf c.outBufSize
        = some ⟨⟨d.state⟩, d.produced, d.mem⟩ ∧
      c.run ⟨s⟩ = some r ∧
      r.state = some ⟨d.state⟩ ∧ r.mem = d.mem ∧
      (r.status = .ok ∧ r.outLen = some d.produced ∨
        r.status = .errBufferTooSmall ∧ d.produced = c.outBufSize) ∧
      (d.produced < c.outBufSize → r.status = .ok ∧
        d.state = rxDecoder.final s c.chunk ∧
        (d.mem c.outBuf).take d.produced = rxDecoder.output s c.chunk) := by
  have tool := rxDecodeChunk_bounded (s := s) (c := c)
  refine ⟨_, _, tool, by rw [probeRxDecodeChunk, tool]; rfl, RxCall.run_eq, rfl, rfl, ?_, ?_⟩
  · rcases Nat.lt_or_ge c.outBufSize (decodedLength s c.inLen) with full | fits
    · right
      refine ⟨if_neg (mt RxCall.bounded_complete_iff.mp (Nat.not_le.mpr full)), ?_⟩
      exact length_bounded.trans (min_eq_left full.le)
    · left
      have complete := RxCall.bounded_complete_iff.mpr fits
      exact ⟨if_pos complete, congrArg some (if_pos complete)⟩
  · intro below
    have fits : decodedLength s c.inLen ≤ c.outBufSize := by
      have short : (c.bounded ⟨s⟩).out.length < c.outBufSize := below
      rw [length_bounded] at short
      omega
    have room : (rxDecoder.output s c.chunk).length ≤ c.outBufSize := by
      rwa [length_output, RxCall.length_chunk]
    refine ⟨if_pos (RxCall.bounded_complete_iff.mpr fits), Transducer.within_state room, ?_⟩
    rw [Mem.take_splice, RxCall.bounded_out]
    exact List.take_of_length_le room

end Ks959.Tools
