import Ks959.Rx.Proto

/-!
# Decoding sessions

A session feeds the decoder one chunk after another with the same state. `session` is the caller
that goes on as long as the calls succeed; `retrySession` is the caller that may see a call fail
for lack of room and then makes it again.

* `deobfuscate_exact`: what one call returns, in closed form.
* `session_chunks`: a session's output and final state do not depend on how the stream is cut.
* `failed_call_recoverable`: a call that runs out of room has already advanced the counter, so
  making it again decodes the same bytes only if it had come round to where it started, which is a
  matter of the start state and the room (`Recoverable`). Sessions whose failures are of that kind
  decode like one pass over the whole stream.
-/

namespace Ks959.Rx
open CMemory SlotCounter

variable {ι κ : Type} [DecidableEq ι] [DecidableEq κ]

namespace RxCall

/-- The call on an input and an output buffer given by their contents. -/
def ofBuffers (input output : List UInt8) : RxCall Bool where
  mem p := if p then output else input
  inBuf := false
  inLen := input.length
  outBuf := true
  outBufSize := output.length
  outLen := 0
  inBuf_holds := le_rfl
  outBuf_holds := le_rfl

/-- A call that succeeds: the state it leaves and the bytes it hands out. -/
def succeeded (c : RxCall ι) (s : RxDecodeState) : Option (RxDecodeState × List UInt8) := do
  let r ← c.run s
  match r.status, r.state, r.outLen with
  | .ok, some s', some n => some (s', (r.mem c.outBuf).take n)
  | _, _, _ => none

/-- A call that fails for lack of room: the state it leaves. -/
def failed (c : RxCall ι) (s : RxDecodeState) : Option RxDecodeState := do
  let r ← c.run s
  if r.status = .errBufferTooSmall then r.state else none

variable {c : RxCall ι} {s : RxDecodeState}

/-- With room for the decoded chunk a call succeeds. -/
lemma succeeded_of_fits (fits : decodedLength s.variableXormask c.inLen ≤ c.outBufSize) :
    c.succeeded s = some (⟨rxDecoder.final s.variableXormask c.chunk⟩, c.decoded s) := by
  rw [succeeded, run_of_fits fits, ← length_decoded]
  simp

/-- Without room for it no call succeeds. -/
lemma succeeded_of_full (full : c.outBufSize < decodedLength s.variableXormask c.inLen) :
    c.succeeded s = none := by
  rw [succeeded, run_of_full full]
  rfl

/-- A call that succeeds has decoded the whole chunk. -/
lemma succeeded_inv {s' : RxDecodeState} {out : List UInt8} (e : c.succeeded s = some (s', out)) :
    s' = ⟨rxDecoder.final s.variableXormask c.chunk⟩ ∧ out = c.decoded s := by
  rcases Nat.lt_or_ge c.outBufSize (decodedLength s.variableXormask c.inLen) with full | fits
  · rw [succeeded_of_full full] at e
    cases e
  · rw [succeeded_of_fits fits] at e
    cases e
    exact ⟨rfl, rfl⟩

omit [DecidableEq ι] in
/-- Out of room, the counter stands behind the slot of the first byte that did not fit. -/
lemma bounded_state (full : c.outBufSize < decodedLength s.variableXormask c.inLen) :
    (c.bounded s).state.toNat
      = (s.variableXormask.toNat + sourceIndex s.variableXormask c.outBufSize + 1) % 256 := by
  have long : c.outBufSize < (rxDecoder.output s.variableXormask c.chunk).length := by
    rwa [length_output, length_chunk]
  obtain ⟨ys, x, zs, _, placed, emits, state⟩ := Transducer.within_stop long
  rw [length_output] at placed
  have stop : sourceIndex s.variableXormask c.outBufSize = ys.length := by
    rw [← placed]
    exact slot_kept (UInt8.toNat_lt _) (emit_final_isSome.mp emits)
  rw [bounded, state, final_toNat, stop, List.length_append, List.length_singleton, Nat.add_assoc]

/-- Without room for the decoded chunk a call fails, and leaves the state where it stopped. -/
lemma failed_of_full (full : c.outBufSize < decodedLength s.variableXormask c.inLen) :
    c.failed s = some ⟨(c.bounded s).state⟩ := by
  rw [failed, run_of_full full]
  rfl

/-- With room for the decoded chunk no call fails. -/
lemma failed_of_fits (fits : decodedLength s.variableXormask c.inLen ≤ c.outBufSize) :
    c.failed s = none := by
  rw [failed, run_of_fits fits]
  rfl

/-- After a call with enough room, the output byte `j` is the byte of its slot, unmasked. -/
lemma load_decoded {j : Nat} (lt : j < decodedLength s.variableXormask c.inLen) :
    ∃ b, c.mem.load c.inBuf (sourceIndex s.variableXormask j) = some b ∧
      (c.mem.splice c.outBuf (c.decoded s)).load c.outBuf j
        = some (unmask (s.variableXormask.toNat + sourceIndex s.variableXormask j + 1) b) := by
  have len : j < (c.decoded s).length := by
    rw [length_decoded]; exact lt
  have source : sourceIndex s.variableXormask j < c.chunk.length := by
    rw [length_chunk]
    exact (lt_kept_iff (by omega) (UInt8.toNat_lt _)).mp lt
  have read : (c.mem c.inBuf)[sourceIndex s.variableXormask j]?
      = some c.chunk[sourceIndex s.variableXormask j] := by
    rw [← List.getElem?_eq_getElem source, chunk, List.getElem?_take_of_lt]
    rwa [length_chunk] at source
  refine ⟨_, read, ?_⟩
  rw [Mem.load, Mem.splice_same, List.getElem?_append_left len, decoded,
    getElem?_output (by rw [length_chunk]; exact lt), List.getElem?_eq_getElem source]
  rfl

end RxCall

/-- The meaning of one call: when it succeeds, what it counts, where it leaves the counter, and
    which input byte each output byte comes from. -/
theorem deobfuscate_exact (s : UInt8) (c : RxCall ι) :
    ∃ r, c.run ⟨s⟩ = some r ∧
      (r.status = .ok ↔ c.inLen - (s.toNat + c.inLen) / 256 ≤ c.outBufSize) ∧
      (r.status = .ok →
        r.outLen = some (c.inLen - (s.toNat + c.inLen) / 256) ∧
        r.state = some ⟨UInt8.ofNat ((s.toNat + c.inLen) % 256)⟩ ∧
        ∀ j < c.inLen - (s.toNat + c.inLen) / 256, ∃ b,
          c.mem.load c.inBuf (j + (s.toNat + j) / 255) = some b ∧
          r.mem.load c.outBuf j = some
            (b ^^^ UInt8.ofNat ((s.toNat + (j + (s.toNat + j) / 255) + 1) % 256) ^^^ 0x55)) ∧
      (c.inLen ≤ c.outBufSize → r.status = .ok) := by
  rcases Nat.lt_or_ge c.outBufSize (decodedLength s c.inLen) with full | fits
  · have crowded : ¬ c.inLen - (s.toNat + c.inLen) / 256 ≤ c.outBufSize := Nat.not_le.mpr full
    have short := decodedLength_le s c.inLen
    refine ⟨_, RxCall.run_of_full full, ⟨nofun, fun le => absurd le crowded⟩, nofun, ?_⟩
    intro room
    exact absurd (Nat.le_trans short room) crowded
  · refine ⟨_, RxCall.run_of_fits fits, ⟨fun _ => fits, fun _ => rfl⟩, fun _ => ⟨rfl, ?_, ?_⟩,
      fun _ => rfl⟩
    · rw [final_eq, RxCall.length_chunk, ← UInt8.ofNat_mod_size]
    · intro j lt
      exact RxCall.load_decoded lt

/-- Call after call with the same state, each output appended; `none` once a call fails. -/
def session : RxDecodeState → List (RxCall ι) → Option (RxDecodeState × List UInt8)
  | s, [] => some (s, [])
  | s, c :: cs => do
    let (s, out) ← c.succeeded s
    let (s, rest) ← session s cs
    some (s, out ++ rest)

/-- The bytes received over a list of calls. -/
def received (calls : List (RxCall ι)) : List UInt8 := (calls.map RxCall.chunk).flatten

/-- A session decodes the stream it received, wherever it was cut. -/
lemma session_inv {s s' : RxDecodeState} {calls : List (RxCall ι)} {out : List UInt8}
    (run : session s calls = some (s', out)) :
    s' = ⟨rxDecoder.final s.variableXormask (received calls)⟩ ∧
      out = rxDecoder.output s.variableXormask (received calls) := by
  induction calls generalizing s s' out with
  | nil =>
    cases run
    exact ⟨rfl, rfl⟩
  | cons c cs ih =>
    rw [session, Option.bind_eq_bind, Option.bind_eq_some_iff] at run
    obtain ⟨⟨s₁, out₁⟩, first, run⟩ := run
    obtain ⟨rfl, rfl⟩ := RxCall.succeeded_inv first
    obtain ⟨⟨s₂, out₂⟩, rest, last⟩ := Option.bind_eq_some_iff.mp run
    obtain ⟨rfl, rfl⟩ := ih rest
    cases last
    have split : received (c :: cs) = c.chunk ++ received cs := rfl
    rw [split, Transducer.final_append, Transducer.output_append]
    exact ⟨rfl, rfl⟩

/-- The cut of a stream into chunks changes neither the output of a session nor its final state,
    which is the length of the stream modulo 256 for a session begun with `protoRxStateInit`. -/
theorem session_chunks {s s₁ s₂ : RxDecodeState} {out₁ out₂ : List UInt8}
    (calls : List (RxCall ι)) (whole : RxCall κ) (cut : whole.chunk = received calls)
    (pieces : session s calls = some (s₁, out₁)) (once : session s [whole] = some (s₂, out₂)) :
    out₁ = out₂ ∧ s₁ = s₂ ∧
      ∀ old, protoRxStateInit (some old) = some s →
        s₁.variableXormask.toNat = whole.inLen % 256 := by
  obtain ⟨rfl, rfl⟩ := session_inv pieces
  obtain ⟨rfl, rfl⟩ := session_inv once
  have same : received [whole] = received calls := by
    rw [← cut]
    exact List.append_nil _
  refine ⟨by rw [same], by rw [same], ?_⟩
  intro old init
  cases init
  rw [final_toNat, ← cut, RxCall.length_chunk]
  exact congrArg (· % 256) (Nat.zero_add _)

/-- `ABC` in two chunks, with an empty one between them, and in one. -/
theorem session_chunks_abc :
    ∃ out₁ out₂ s₁ s₂,
      session ⟨0⟩ [RxCall.ofBuffers [0x41, 0x42] [0, 0], RxCall.ofBuffers [] [],
        RxCall.ofBuffers [0x43] [7]] = some (s₁, out₁) ∧
      session ⟨0⟩ [RxCall.ofBuffers [0x41, 0x42, 0x43] [0, 0, 0]] = some (s₂, out₂) ∧
      out₁ = out₂ ∧ s₁ = s₂ ∧
        ∀ old, protoRxStateInit (some old) = some ⟨0⟩ → s₁.variableXormask.toNat = 3 % 256 := by
  have pieces : session ⟨0⟩ [RxCall.ofBuffers [0x41, 0x42] [0, 0], RxCall.ofBuffers [] [],
      RxCall.ofBuffers [0x43] [7]] = some (⟨3⟩, [0x15, 0x15, 0x15]) := rfl
  have once : session ⟨0⟩ [RxCall.ofBuffers [0x41, 0x42, 0x43] [0, 0, 0]]
      = some (⟨3⟩, [0x15, 0x15, 0x15]) := rfl
  exact ⟨_, _, _, _, pieces, once, session_chunks _ _ rfl pieces once⟩

/-- A call that runs out of room is harmless: it leaves the state alone, and the chunk too unless it
    works in place, and making it again with room for the whole chunk is as if it had never been
    made. -/
def AtomicOnFailure (s : RxDecodeState) (c : RxCall ι) : Prop :=
  ∀ r, c.run s = some r → r.status = .errBufferTooSmall →
    r.state = some s ∧ (c.inBuf ≠ c.outBuf → r.mem c.inBuf = c.mem c.inBuf) ∧
      ∀ s' (retry : RxCall ι), r.state = some s' → retry.chunk = c.chunk →
        c.inLen ≤ retry.outBufSize →
          ∃ r', retry.run s' = some r' ∧ r'.status = .ok ∧ retry.run s = some r'

/-- The chunk fits, or the counter comes round to where it started just when the room is
    exhausted. -/
def Recoverable (s : RxDecodeState) (c : RxCall ι) : Prop :=
  c.inLen - (s.variableXormask.toNat + c.inLen) / 256 ≤ c.outBufSize ∨
    (s.variableXormask ≠ 0 ∧ 255 ∣ c.outBufSize + 1)

omit [DecidableEq ι] in
/-- The counter comes round when the bytes looked at are a multiple of 256. -/
lemma bounded_state_eq_iff {s : RxDecodeState} {c : RxCall ι}
    (full : c.outBufSize < decodedLength s.variableXormask c.inLen) :
    (c.bounded s).state = s.variableXormask ↔
      s.variableXormask ≠ 0 ∧ 255 ∣ c.outBufSize + 1 := by
  have lt := s.variableXormask.toNat_lt
  rw [← UInt8.toNat_inj, RxCall.bounded_state full, Ne, ← UInt8.toNat_inj, sourceIndex,
    UInt8.toNat_zero]
  omega

/-- A call is atomic exactly when it is recoverable. -/
lemma atomicOnFailure_iff (s : RxDecodeState) (c : RxCall ι) :
    AtomicOnFailure s c ↔ Recoverable s c := by
  rcases Nat.lt_or_ge c.outBufSize (decodedLength s.variableXormask c.inLen) with full | fits
  · have crowded : ¬ c.inLen - (s.variableXormask.toNat + c.inLen) / 256 ≤ c.outBufSize :=
      Nat.not_le.mpr full
    rw [Recoverable, or_iff_right crowded, ← bounded_state_eq_iff full]
    constructor
    · intro atomic
      obtain ⟨state, _⟩ := atomic _ (RxCall.run_of_full full) rfl
      exact congrArg RxDecodeState.variableXormask (Option.some.inj state)
    · intro back r run _
      rw [RxCall.run_of_full full] at run
      cases run
      refine ⟨by rw [back], fun apart => Mem.splice_other apart, ?_⟩
      intro s' retry state same room
      rw [back] at state
      cases state
      have len : retry.inLen = c.inLen := by
        rw [← RxCall.length_chunk, same, RxCall.length_chunk]
      have fits : decodedLength s.variableXormask retry.inLen ≤ retry.outBufSize :=
        Nat.le_trans (decodedLength_le _ _) (len ▸ room)
      exact ⟨_, RxCall.run_of_fits fits, rfl, RxCall.run_of_fits fits⟩
  · refine ⟨fun _ => .inl fits, ?_⟩
    intro _ r run small
    rw [RxCall.run_of_fits fits] at run
    cases run
    cases small

/-- A call of a session, and the try at the same chunk that may have failed before it. -/
structure RetriedCall (ι : Type) where
  first : Option (RxCall ι)
  call : RxCall ι
  sameChunk : ∀ f ∈ first, f.chunk = call.chunk

/-- The state after a first try that failed, or with no first try. -/
def RetriedCall.afterFirst (c : RetriedCall ι) (s : RxDecodeState) : Option RxDecodeState :=
  match c.first with
  | none => some s
  | some f => f.failed s

/-- A session in which every call may fail once before it succeeds. -/
def retrySession : RxDecodeState → List (RetriedCall ι) → Option (RxDecodeState × List UInt8)
  | s, [] => some (s, [])
  | s, c :: cs => do
    let s ← c.afterFirst s
    let (s, out) ← c.call.succeeded s
    let (s, rest) ← retrySession s cs
    some (s, out ++ rest)

/-- Every first try is recoverable where it is made, the counter counting the bytes before it. -/
def AllRecoverable : RxDecodeState → List (RetriedCall ι) → Prop
  | _, [] => True
  | s, c :: cs => (∀ f ∈ c.first, Recoverable s f) ∧
      AllRecoverable ⟨UInt8.ofNat (s.variableXormask.toNat + c.call.inLen)⟩ cs

/-- Tries that are recoverable leave the state alone. -/
lemma RetriedCall.afterFirst_inv {c : RetriedCall ι} {s s' : RxDecodeState}
    (safe : ∀ f ∈ c.first, Recoverable s f) (e : c.afterFirst s = some s') : s' = s := by
  rw [afterFirst] at e
  cases first : c.first with
  | none =>
    rw [first] at e
    exact (Option.some.inj e).symm
  | some f =>
    rw [first] at e
    change f.failed s = some s' at e
    rcases Nat.lt_or_ge f.outBufSize (decodedLength s.variableXormask f.inLen) with full | fits
    · rcases safe f first with fits | back
      · exact absurd fits (Nat.not_le.mpr full)
      · rw [RxCall.failed_of_full full, (bounded_state_eq_iff full).mpr back] at e
        exact (Option.some.inj e).symm
    · rw [RxCall.failed_of_fits fits] at e
      cases e

/-- With recoverable failures only, a session is the session without them. -/
lemma retrySession_eq {s : RxDecodeState} {cs : List (RetriedCall ι)}
    {s' : RxDecodeState} {out : List UInt8} (safe : AllRecoverable s cs)
    (run : retrySession s cs = some (s', out)) :
    session s (cs.map RetriedCall.call) = some (s', out) := by
  induction cs generalizing s s' out with
  | nil => exact run
  | cons c cs ih =>
    obtain ⟨safe, later⟩ := safe
    obtain ⟨s₁, first, afterwards⟩ := Option.bind_eq_some_iff.mp run
    obtain rfl := c.afterFirst_inv safe first
    obtain ⟨⟨s₂, out₂⟩, call, remaining⟩ := Option.bind_eq_some_iff.mp afterwards
    obtain ⟨⟨s₃, out₃⟩, rest, last⟩ := Option.bind_eq_some_iff.mp remaining
    obtain ⟨rfl, rfl⟩ := RxCall.succeeded_inv call
    rw [final_eq, RxCall.length_chunk] at rest call
    rw [List.map_cons, session, call]
    simp only [Option.bind_eq_bind, Option.bind_some, ih later rest]
    exact last

/-- A call that fails for lack of room can be made again exactly when it is `Recoverable`; and a
    session with recoverable failures only decodes as one pass over the whole stream does. -/
theorem failed_call_recoverable :
    (∀ (s : RxDecodeState) (c : RxCall ι), AtomicOnFailure s c ↔ Recoverable s c) ∧
      ∀ (init old : RxDecodeState) (cs : List (RetriedCall ι)) (whole : RxCall ι)
        (s₁ s₂ : RxDecodeState) (out₁ out₂ : List UInt8),
        protoRxStateInit (some old) = some init → AllRecoverable init cs →
        whole.chunk = received (cs.map RetriedCall.call) →
        retrySession init cs = some (s₁, out₁) → session init [whole] = some (s₂, out₂) →
          out₁ = out₂ ∧ s₁ = s₂ := by
  refine ⟨atomicOnFailure_iff, ?_⟩
  intro init old cs whole s₁ s₂ out₁ out₂ _ safe cut pieces once
  obtain ⟨rfl, rfl⟩ := session_inv (retrySession_eq safe pieces)
  obtain ⟨rfl, rfl⟩ := session_inv once
  have same : received [whole] = received (cs.map RetriedCall.call) := by
    rw [← cut]
    exact List.append_nil _
  exact ⟨by rw [same], by rw [same]⟩

/-- From the counter `1`, a call that stops for lack of room after 256 bytes can be made again. -/
theorem failed_call_recoverable_round :
    ((RxCall.ofBuffers (List.replicate 256 0x41) (List.replicate 254 0)).failed ⟨1⟩).isSome ∧
      AtomicOnFailure ⟨1⟩ (RxCall.ofBuffers (List.replicate 256 0x41) (List.replicate 254 0)) := by
  have size (n : Nat) (b : UInt8) : (List.replicate n b).length = n := List.length_replicate
  constructor
  · rw [RxCall.failed_of_full]
    · rfl
    · change (List.replicate 254 0).length < decodedLength 1 (List.replicate 256 0x41).length
      rw [size, size]
      decide
  · refine (failed_call_recoverable.1 _ _).mpr (.inr ⟨by decide, ?_⟩)
    change 255 ∣ (List.replicate 254 0).length + 1
    rw [size]

/-- One byte and no room: the counter has moved, and the byte is garbled when it is tried again. -/
theorem failed_call_shifts_counter :
    ¬ AtomicOnFailure ⟨0⟩ (RxCall.ofBuffers [0x41] []) ∧
      (RxCall.ofBuffers [0x41] []).failed ⟨0⟩ = some ⟨1⟩ ∧
      (RxCall.ofBuffers [0x41] [0]).succeeded ⟨1⟩ = some (⟨2⟩, [0x16]) ∧
      (RxCall.ofBuffers [0x41] [0]).succeeded ⟨0⟩ = some (⟨1⟩, [0x15]) := by
  refine ⟨?_, rfl, rfl, rfl⟩
  rw [atomicOnFailure_iff]
  unfold Recoverable
  decide

end Ks959.Rx
