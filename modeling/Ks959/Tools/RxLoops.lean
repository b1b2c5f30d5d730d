import Ks959.Tools.RxPoll

/-!
# The receive loops of the tools (`src/tools/linux`)

`pollOnce` is a turn of the loops of `ks959_rx_monitor.c` and of `poll_after_step` in
`aladin_handshake_probe.c`, which are the same up to what they print; `probePoll` is a turn of the
loop of `ks959_libusb_probe.c`, which decodes in place and stops at the first error. A run is given
by the replies libusb gives it, and the buffers start with whatever they held.

`pollOnce_eq` and `probePoll_eq` say that a turn reports what is expected of its reply, whatever the
buffers held. `receive_loops_lossless` is the result for whole runs.
-/

namespace Ks959.Tools
open CMemory Rx

/-- The two local arrays of a receive loop, `RX_BUF_SIZE` bytes each. -/
inductive RxBuffer where
  | raw
  | dec
deriving DecidableEq, Repr

/-- What the arrays hold before they are written. -/
structure RxLocals where
  raw : Vector UInt8 255
  dec : Vector UInt8 255

def RxLocals.mem (locals : RxLocals) : Mem RxBuffer UInt8
  | .raw => locals.raw.toList
  | .dec => locals.dec.toList

/-- What a turn leaves behind. -/
structure Polled (ι : Type) where
  mem : Mem ι UInt8
  poll : Poll

/-- What a loop leaves behind. -/
structure PollRun where
  state : UInt8
  polls : List Poll
deriving DecidableEq, Repr

/-- One turn of the receive loops that decode into a second buffer. -/
def pollOnce (state : UInt8) (mem : Mem RxBuffer UInt8) (reply : PollReply 255) :
    Option (Polled RxBuffer) := do
  -- `memset`, then the poll
  let mem ← mem.write .raw (List.replicate 255 0)
  let (ret, mem) ← rxPoll mem .raw reply
  if ret < 0 then
    some ⟨mem, .quiet state⟩
  else if ret = 0 then
    some ⟨mem, .quiet state⟩
  else do
    let dec ← rxDecodeChunk state mem .raw ret.toNat .dec 255
    some ⟨dec.mem, dec.state, (dec.mem .dec).take dec.produced, dec.full⟩

/-- The receive loop over a run of replies. -/
def pollLoop (state : UInt8) (mem : Mem RxBuffer UInt8) : List (PollReply 255) → Option PollRun
  | [] => some ⟨state, []⟩
  | reply :: replies => do
    let turn ← pollOnce state mem reply
    let rest ← pollLoop turn.poll.state turn.mem replies
    some { rest with polls := turn.poll :: rest.polls }

/-- The monitor loop of `ks959_rx_monitor.c`. -/
def rxMonitor (locals : RxLocals) (replies : List (PollReply 255)) : Option PollRun :=
  pollLoop 0 locals.mem replies

/-- `poll_after_step` of `aladin_handshake_probe.c`, whose arrays are its own. -/
def pollAfterStep (rxState : UInt8) (locals : RxLocals) (replies : List (PollReply 255)) :
    Option PollRun :=
  pollLoop rxState locals.mem replies

/-- The steps of `aladin_handshake_probe.c`, which share the counter. -/
def handshakeSteps (rxState : UInt8) :
    List (RxLocals × List (PollReply 255)) → Option PollRun
  | [] => some ⟨rxState, []⟩
  | (locals, replies) :: steps => do
    let step ← pollAfterStep rxState locals replies
    let rest ← handshakeSteps step.state steps
    some { rest with polls := step.polls ++ rest.polls }

/-- One turn of the loop of `ks959_libusb_probe.c`, `none` inside when it leaves the loop. -/
def probePoll (state : UInt8) (mem : Mem Unit UInt8) (reply : PollReply 2048) :
    Option (Option (Polled Unit)) := do
  let (rawLen, mem) ← rxPoll mem () reply
  if rawLen < 0 then
    -- `goto cleanup`
    some none
  else if rawLen > 0 then do
    let dec ← rxDecodeInplace mem () rawLen.toNat state
    some (some ⟨dec.mem, dec.state, (dec.mem ()).take dec.decodedLen, false⟩)
  else
    some (some ⟨mem, .quiet state⟩)

/-- The loop of `ks959_libusb_probe.c` over a run of replies. -/
def probeLoop (state : UInt8) (mem : Mem Unit UInt8) : List (PollReply 2048) → Option PollRun
  | [] => some ⟨state, []⟩
  | reply :: replies => do
    match ← probePoll state mem reply with
    | none => some ⟨state, []⟩
    | some turn =>
      let rest ← probeLoop turn.poll.state turn.mem replies
      some { rest with polls := turn.poll :: rest.polls }

/-- `ks959_libusb_probe.c`; `rxbuf` is what the allocated buffer holds. -/
def libusbProbe (rxbuf : Vector UInt8 2048) (replies : List (PollReply 2048)) : Option PollRun :=
  probeLoop 0 (fun _ => rxbuf.toList) replies

/-- One pass of `ks959_rx_decode_chunk` over a whole stream, with room for all of it. -/
def onePass (stream : List UInt8) : Option (List UInt8) := do
  let mem : Mem RxBuffer UInt8
    | .raw => stream
    | .dec => List.replicate stream.length 0
  let dec ← rxDecodeChunk 0 mem .raw stream.length .dec stream.length
  some ((dec.mem .dec).take dec.produced)

/-- The polls that received `raws` have lost nothing: the counter stands at the bytes received so
    far, the decoder has never run out of room, and the decoded blocks are the stream, decoded in
    one pass. -/
structure Lossless (raws : List (List UInt8)) (polls : List Poll) : Prop where
  counted : polls.length = raws.length
  counter : ∀ k (lt : k < polls.length),
    polls[k].state.toNat = (raws.take (k + 1)).flatten.length % 256
  room : ∀ p ∈ polls, p.full = false
  stream : onePass raws.flatten = some (polls.map Poll.decoded).flatten

variable {state : UInt8} {mem : Mem RxBuffer UInt8}

/-- A turn reports what is expected of its reply, and leaves arrays of the same size. -/
lemma pollOnce_eq (state : UInt8) (sized : ∀ b, (mem b).length = 255) (reply : PollReply 255) :
    ∃ mem', (∀ b, (mem' b).length = 255) ∧ pollOnce state mem reply
      = some ⟨mem', rxDecoder.final state reply.raw, rxDecoder.output state reply.raw, false⟩ := by
  have zeros : (List.replicate 255 (0 : UInt8)).length ≤ (mem .raw).length := by
    rw [sized, List.length_replicate]
  obtain ⟨mem₁, cleared⟩ : ∃ mem₁, mem₁ = mem.splice .raw (List.replicate 255 0) := ⟨_, rfl⟩
  have sized₁ b : (mem₁ b).length = 255 := by
    rw [cleared, Mem.length_splice zeros, sized]
  have fits : reply.stored.length ≤ (mem₁ .raw).length := by
    rw [sized₁]
    exact reply.stored_length_le
  obtain ⟨mem₂, stored⟩ : ∃ mem₂, mem₂ = mem₁.splice .raw reply.stored := ⟨_, rfl⟩
  have sized₂ b : (mem₂ b).length = 255 := by
    rw [stored, Mem.length_splice fits, sized₁]
  have turn : pollOnce state mem reply
      = if reply.ret < 0 then some ⟨mem₂, .quiet state⟩
        else if reply.ret = 0 then some ⟨mem₂, .quiet state⟩
        else (rxDecodeChunk state mem₂ .raw reply.ret.toNat .dec 255).bind fun dec =>
          some ⟨dec.mem, dec.state, (dec.mem .dec).take dec.produced, dec.full⟩ := by
    rw [pollOnce, Mem.write_eq zeros, ← cleared]
    simp only [Option.bind_eq_bind, Option.bind_some]
    rw [rxPoll_eq (sized₁ .raw).ge, ← stored]
    rfl
  rw [turn]
  cases reply with
  | failed code bytes negative _ => exact ⟨mem₂, sized₂, if_pos negative⟩
  | received raw short =>
    have counted : ¬ ((raw.length : Int) < 0) := Int.not_lt.mpr (Int.natCast_nonneg _)
    rw [PollReply.ret, if_neg counted]
    rcases raw.length.eq_zero_or_pos with idle | some
    · obtain rfl := List.length_eq_zero_iff.mp idle
      exact ⟨mem₂, sized₂, if_pos rfl⟩
    · have data : ¬ ((raw.length : Int) = 0) := by
        rw [Int.natCast_eq_zero]
        exact some.ne'
      have chunk : (mem₂ .raw).take raw.length = raw := by
        rw [stored]
        exact Mem.take_splice
      have small : (rxDecoder.output state raw).length ≤ (mem₂ .dec).length := by
        rw [sized₂]
        exact Transducer.length_output_le.trans short
      have decoded : rxDecodeChunk state mem₂ .raw raw.length .dec 255
          = _ := rxDecodeChunk_eq (by rw [sized₂]; exact short) short (sized₂ .dec).ge
      rw [chunk] at decoded
      refine ⟨mem₂.splice .dec (rxDecoder.output state raw), ?_, ?_⟩
      · intro b
        rw [Mem.length_splice small, sized₂]
      · rw [if_neg data, Int.toNat_natCast, decoded, Option.bind_some, Mem.take_splice]
        rfl

/-- The loop reports what is expected of its replies. -/
lemma pollLoop_eq (sized : ∀ b, (mem b).length = 255) (replies : List (PollReply 255)) :
    pollLoop state mem replies
      = some ⟨rxDecoder.final state (replies.map PollReply.raw).flatten,
          expected state (replies.map PollReply.raw)⟩ := by
  induction replies generalizing state mem with
  | nil => rfl
  | cons reply replies ih =>
    obtain ⟨mem', sized', turn⟩ := pollOnce_eq state sized reply
    rw [pollLoop, turn]
    simp only [Option.bind_eq_bind, Option.bind_some]
    rw [ih sized', List.map_cons, List.flatten_cons, Transducer.final_append, expected]
    rfl

/-- Both arrays have 255 bytes. -/
lemma RxLocals.sized (locals : RxLocals) (b : RxBuffer) : (locals.mem b).length = 255 := by
  cases b with
  | raw => exact Vector.length_toList
  | dec => exact Vector.length_toList

/-- The bytes received in the steps, reply by reply. -/
def stepReplies (steps : List (RxLocals × List (PollReply 255))) : List (List UInt8) :=
  (steps.flatMap Prod.snd).map PollReply.raw

/-- The steps report what is expected of all their replies. -/
lemma handshakeSteps_eq (steps : List (RxLocals × List (PollReply 255))) :
    handshakeSteps state steps
      = some ⟨rxDecoder.final state (stepReplies steps).flatten,
          expected state (stepReplies steps)⟩ := by
  induction steps generalizing state with
  | nil => rfl
  | cons step steps ih =>
    obtain ⟨locals, replies⟩ := step
    have split : stepReplies ((locals, replies) :: steps)
        = replies.map PollReply.raw ++ stepReplies steps := by
      rw [stepReplies, List.flatMap_cons, List.map_append, stepReplies]
    rw [handshakeSteps, pollAfterStep, pollLoop_eq locals.sized]
    simp only [Option.bind_eq_bind, Option.bind_some]
    rw [ih, split, expected_append, List.flatten_append, Transducer.final_append]
    rfl

/-- The replies before the first error, which are the ones the probe looks at. -/
def beforeError {wLength : Nat} : List (PollReply wLength) → List (List UInt8)
  | [] => []
  | .failed _ _ _ _ :: _ => []
  | .received raw _ :: replies => raw :: beforeError replies

/-- A failed poll ends the loop. -/
lemma probePoll_failed {mem : Mem Unit UInt8} (sized : (mem ()).length = 2048) {code : Int}
    {stored : List UInt8} (negative : code < 0) (fits : stored.length ≤ 2048) :
    probePoll state mem (.failed code stored negative fits) = some none := by
  rw [probePoll, rxPoll_eq sized.ge]
  simp only [Option.bind_eq_bind, Option.bind_some, PollReply.ret]
  rw [if_pos negative]

/-- Any other turn reports what is expected of its bytes, and leaves a buffer of the same size. -/
lemma probePoll_received (state : UInt8) {mem : Mem Unit UInt8} (sized : (mem ()).length = 2048)
    {raw : List UInt8} (fits : raw.length ≤ 2048) :
    ∃ mem', (mem' ()).length = 2048 ∧ probePoll state mem (.received raw fits)
      = some (some ⟨mem', rxDecoder.final state raw, rxDecoder.output state raw, false⟩) := by
  have short : raw.length ≤ (mem ()).length := by
    rw [sized]
    exact fits
  obtain ⟨mem₁, stored⟩ : ∃ mem₁, mem₁ = mem.splice () raw := ⟨_, rfl⟩
  have sized₁ : (mem₁ ()).length = 2048 := by
    rw [stored, Mem.length_splice short, sized]
  have counted : ¬ ((raw.length : Int) < 0) := Int.not_lt.mpr (Int.natCast_nonneg _)
  rw [probePoll, rxPoll_eq sized.ge]
  simp only [Option.bind_eq_bind, Option.bind_some, PollReply.ret, PollReply.stored, ← stored]
  rw [if_neg counted]
  rcases raw.length.eq_zero_or_pos with idle | some
  · obtain rfl := List.length_eq_zero_iff.mp idle
    exact ⟨mem₁, sized₁, rfl⟩
  · have data : (raw.length : Int) > 0 := Int.natCast_pos.mpr some
    have chunk : (mem₁ ()).take raw.length = raw := by
      rw [stored]
      exact Mem.take_splice
    have holds : raw.length ≤ (mem₁ ()).length := by
      rw [sized₁]
      exact fits
    have decoded := rxDecodeInplace_eq state holds
    have small : (rxDecoder.output state raw).length ≤ (mem₁ ()).length :=
      Transducer.length_output_le.trans holds
    rw [chunk] at decoded
    refine ⟨mem₁.splice () (rxDecoder.output state raw), ?_, ?_⟩
    · rw [Mem.length_splice small, sized₁]
    · rw [if_pos data, Int.toNat_natCast, decoded, Option.bind_some, Mem.take_splice]

/-- The loop reports what is expected of the replies before the first error. -/
lemma probeLoop_eq {mem : Mem Unit UInt8} (sized : (mem ()).length = 2048)
    (replies : List (PollReply 2048)) :
    probeLoop state mem replies
      = some ⟨rxDecoder.final state (beforeError replies).flatten,
          expected state (beforeError replies)⟩ := by
  induction replies generalizing state mem with
  | nil => rfl
  | cons reply replies ih =>
    cases reply with
    | failed code stored negative fits =>
      rw [probeLoop, probePoll_failed sized]
      rfl
    | received raw fits =>
      obtain ⟨mem', sized', turn⟩ := probePoll_received state sized fits
      rw [probeLoop, turn]
      simp only [Option.bind_eq_bind, Option.bind_some]
      rw [ih sized', beforeError, List.flatten_cons, Transducer.final_append, expected]
      rfl

/-- One pass is the session decoder. -/
lemma onePass_eq (stream : List UInt8) : onePass stream = some (rxDecoder.output 0 stream) := by
  let mem : Mem RxBuffer UInt8
    | .raw => stream
    | .dec => List.replicate stream.length 0
  have decoded : rxDecodeChunk 0 mem .raw stream.length .dec stream.length = _ :=
    rxDecodeChunk_eq le_rfl le_rfl List.length_replicate.ge
  have whole : (mem .raw).take stream.length = stream := List.take_length
  rw [whole] at decoded
  rw [onePass]
  simp only [mem] at decoded
  simp only [decoded, Option.bind_eq_bind, Option.bind_some, Mem.take_splice]

/-- What is expected is lossless. -/
lemma lossless_expected (raws : List (List UInt8)) : Lossless raws (expected 0 raws) where
  counted := length_expected
  counter k lt := by
    rw [expected_state, final_toNat, UInt8.toNat_zero, Nat.zero_add]
  room p mem := expected_full mem
  stream := by
    rw [onePass_eq, expected_decoded, Transducer.output_flatten]

/-- No receive loop of the tools loses a byte: whatever libusb replies, and whatever the buffers
    hold at the start, the run of each loop faults on no access and is lossless. -/
theorem receive_loops_lossless :
    (∀ locals replies, ∃ run, rxMonitor locals replies = some run ∧
      Lossless (replies.map PollReply.raw) run.polls) ∧
    (∀ steps, ∃ run, handshakeSteps 0 steps = some run ∧
      Lossless (stepReplies steps) run.polls) ∧
    ∀ rxbuf replies, ∃ run, libusbProbe rxbuf replies = some run ∧
      Lossless (beforeError replies) run.polls := by
  refine ⟨fun locals replies => ?_, fun steps => ?_, fun rxbuf replies => ?_⟩
  · exact ⟨_, pollLoop_eq locals.sized replies, lossless_expected _⟩
  · exact ⟨_, handshakeSteps_eq steps, lossless_expected _⟩
  · exact ⟨_, probeLoop_eq Vector.length_toList replies, lossless_expected _⟩

end Ks959.Tools
