import Ks959.Lib.Drive
import Ks959.Rx.Decoder

/-!
# The library decoder (`ks959_proto.c`)

`protoRxStateInit` and `protoDeobfuscateRxChunk`, translated over object memory: a pointer
argument is an `Option`, `none` being the null pointer, and the value behind it is returned with
the result. `deobfuscateLoop` is the `for` loop, `left` being the iterations still to come.

The loop is `CMemory.drive` at the session decoder (`deobfuscateLoop_eq`), so a call on real
buffers, in place or not, has the meaning given by `RxCall.run_eq`: it faults on no access, decodes
what fits, and leaves the counter behind the last byte it looked at.
-/

namespace Ks959.Rx
open CMemory

/-- `ks959_rx_decode_state_t`. -/
structure RxDecodeState where
  variableXormask : UInt8
deriving DecidableEq, Repr

/-- `ks959_proto_rx_state_init`. -/
def protoRxStateInit (state : Option RxDecodeState) : Option RxDecodeState :=
  match state with
  | none => none
  | some _ => some { variableXormask := 0 }

/-- How the decoding loop is left, and what it leaves behind. -/
structure DeobfuscateLoop (ι : Type) where
  status : Status
  state : RxDecodeState
  produced : Nat
  mem : Mem ι UInt8

/-- What a call returns and leaves behind its pointers. -/
structure RxReturn (ι : Type) where
  status : Status
  state : Option RxDecodeState
  outLen : Option Nat
  mem : Mem ι UInt8

section
variable {ι : Type} [DecidableEq ι]

/-- The loop of `ks959_proto_deobfuscate_rx_chunk`. -/
def deobfuscateLoop (inBuf outBuf : ι) (outBufSize : Nat) :
    (left i produced : Nat) → RxDecodeState → Mem ι UInt8 → Option (DeobfuscateLoop ι)
  | 0, _, produced, state, mem => some ⟨.ok, state, produced, mem⟩
  | left + 1, i, produced, state, mem => do
    -- the counter moves on before there is a test for room
    let state : RxDecodeState := { variableXormask := state.variableXormask + 1 }
    let byte ← mem.load inBuf i
    let decoded := byte ^^^ state.variableXormask ^^^ 0x55
    if state.variableXormask = 0 then
      deobfuscateLoop inBuf outBuf outBufSize left (i + 1) produced state mem
    else if outBufSize ≤ produced then
      some ⟨.errBufferTooSmall, state, produced, mem⟩
    else do
      let mem ← mem.store outBuf produced decoded
      deobfuscateLoop inBuf outBuf outBufSize left (i + 1) (produced + 1) state mem

/-- `ks959_proto_deobfuscate_rx_chunk`. -/
def protoDeobfuscateRxChunk (mem : Mem ι UInt8) (state : Option RxDecodeState)
    (inBuf : Option ι) (inLen : Nat) (outBuf : Option ι) (outBufSize : Nat)
    (outLen : Option Nat) : Option (RxReturn ι) :=
  match state, inBuf, outBuf, outLen with
  | some st, some src, some dst, some _ => do
    let loop ← deobfuscateLoop src dst outBufSize inLen 0 0 st mem
    match loop.status with
    | .ok => some ⟨.ok, some loop.state, some loop.produced, loop.mem⟩
    | err => some ⟨err, some loop.state, outLen, loop.mem⟩
  | _, _, _, _ => some ⟨.errInvalidArg, state, outLen, mem⟩

/-- The loop drives the session decoder over the two buffers. -/
lemma deobfuscateLoop_eq {inBuf outBuf : ι} {outBufSize left i produced : Nat}
    {state : RxDecodeState} {mem : Mem ι UInt8} :
    deobfuscateLoop inBuf outBuf outBufSize left i produced state mem
      = (drive rxDecoder inBuf outBuf outBufSize left i produced state.variableXormask mem).map
          fun run => ⟨if run.complete then .ok else .errBufferTooSmall, ⟨run.state⟩,
            run.produced, run.mem⟩ := by
  induction left generalizing i produced state mem with
  | zero => rfl
  | succ left ih =>
    cases read : mem.load inBuf i with
    | none => simp [deobfuscateLoop, drive, read]
    | some byte =>
      by_cases wrap : state.variableXormask + 1 = 0
      · simp [deobfuscateLoop, drive, read, emit_none, next_eq, wrap, ih]
      · by_cases full : outBufSize ≤ produced
        · simp [deobfuscateLoop, drive, read, emit_some, next_eq, wrap, full]
        · cases write : mem.store outBuf produced
            (byte ^^^ (state.variableXormask + 1) ^^^ 0x55) with
          | none => simp [deobfuscateLoop, drive, read, emit_some, wrap, full, write]
          | some mem' =>
            simp [deobfuscateLoop, drive, read, emit_some, next_eq, wrap, full, write, ih]

end

/-- The arguments of a call whose buffers are real: they hold as many bytes as the call says. They
    may be one and the same object. -/
structure RxCall (ι : Type) where
  mem : Mem ι UInt8
  inBuf : ι
  inLen : Nat
  outBuf : ι
  outBufSize : Nat
  outLen : Nat
  inBuf_holds : inLen ≤ (mem inBuf).length
  outBuf_holds : outBufSize ≤ (mem outBuf).length

namespace RxCall

variable {ι : Type} [DecidableEq ι]

/-- The received bytes the call is about. -/
def chunk (c : RxCall ι) : List UInt8 := (c.mem c.inBuf).take c.inLen

/-- Make the call with the session state `s`. -/
def run (c : RxCall ι) (s : RxDecodeState) : Option (RxReturn ι) :=
  protoDeobfuscateRxChunk c.mem (some s) (some c.inBuf) c.inLen (some c.outBuf) c.outBufSize
    (some c.outLen)

/-- What the chunk decodes to when there is room for all of it. -/
def decoded (c : RxCall ι) (s : RxDecodeState) : List UInt8 :=
  rxDecoder.output s.variableXormask c.chunk

/-- The decoder's run on the chunk with the room the call gives. -/
def bounded (c : RxCall ι) (s : RxDecodeState) : BoundedRun UInt8 UInt8 :=
  rxDecoder.within c.outBufSize s.variableXormask c.chunk

variable {c : RxCall ι} {s : RxDecodeState}

omit [DecidableEq ι] in
/-- The chunk has the length that is passed for it. -/
@[simp] lemma length_chunk : c.chunk.length = c.inLen :=
  List.length_take_of_le c.inBuf_holds

omit [DecidableEq ι] in
/-- How many bytes a call without a limit hands out. -/
lemma length_decoded : (c.decoded s).length = decodedLength s.variableXormask c.inLen := by
  rw [decoded, length_output, length_chunk]

omit [DecidableEq ι] in
/-- The run is complete exactly when the decoded chunk fits. -/
lemma bounded_complete_iff :
    (c.bounded s).complete = true ↔ decodedLength s.variableXormask c.inLen ≤ c.outBufSize := by
  rw [bounded, Transducer.within_complete_iff, length_output, length_chunk]

omit [DecidableEq ι] in
/-- The run hands out as much of the decoded chunk as fits. -/
lemma bounded_out : (c.bounded s).out = (c.decoded s).take c.outBufSize :=
  Transducer.within_out

/-- The meaning of a call: no access faults, the output buffer starts with what fits of the
    decoded chunk and is otherwise untouched, `*out_len` is set only on success. -/
lemma run_eq : c.run s = some
    { status := if (c.bounded s).complete then .ok else .errBufferTooSmall
      state := some ⟨(c.bounded s).state⟩
      outLen := some (if (c.bounded s).complete then (c.bounded s).out.length else c.outLen)
      mem := c.mem.splice c.outBuf (c.bounded s).out } := by
  have driven := drive_eq_within (t := rxDecoder) (s := s.variableXormask)
    c.outBuf_holds c.inBuf_holds
  rw [run, protoDeobfuscateRxChunk, deobfuscateLoop_eq, driven, ← chunk, ← bounded]
  cases (c.bounded s).complete <;> rfl

/-- A call with room for the decoded chunk. -/
lemma run_of_fits (fits : decodedLength s.variableXormask c.inLen ≤ c.outBufSize) :
    c.run s = some
      { status := .ok
        state := some ⟨rxDecoder.final s.variableXormask c.chunk⟩
        outLen := some (decodedLength s.variableXormask c.inLen)
        mem := c.mem.splice c.outBuf (c.decoded s) } := by
  have complete := bounded_complete_iff.mpr fits
  have state : (c.bounded s).state = rxDecoder.final s.variableXormask c.chunk := by
    apply Transducer.within_state
    rwa [length_output, length_chunk]
  have out : (c.bounded s).out = c.decoded s := by
    rw [bounded_out, List.take_of_length_le (by rw [length_decoded]; exact fits)]
  rw [run_eq, complete, state, out, length_decoded]
  rfl

/-- A call without room for it. -/
lemma run_of_full (full : c.outBufSize < decodedLength s.variableXormask c.inLen) :
    c.run s = some
      { status := .errBufferTooSmall
        state := some ⟨(c.bounded s).state⟩
        outLen := some c.outLen
        mem := c.mem.splice c.outBuf ((c.decoded s).take c.outBufSize) } := by
  have incomplete : (c.bounded s).complete = false := by
    rw [← Bool.not_eq_true, bounded_complete_iff]
    exact Nat.not_le.mpr full
  rw [run_eq, incomplete, bounded_out]
  rfl

end RxCall
end Ks959.Rx
