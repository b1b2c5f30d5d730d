import Ks959.Lib.Drive
import Ks959.Rx.Decoder

/-!
# Polling and decoding in the tools (`src/tools/linux`)

The userspace tools carry their own copies of the receive decoder: `rxDecodeChunk`
(`ks959_rx_monitor.c` and, with the counter in a structure, `aladin_handshake_probe.c`) decodes into
a second buffer and breaks when it is full, `rxDecodeInplace` (`ks959_libusb_probe.c`) decodes a
buffer into itself. Both are `CMemory.drive` at the session decoder.

What libusb answers a poll is a `PollReply`, which cannot be built with more bytes than were asked
for. `expected` is what a run of polls is meant to report.
-/

namespace Ks959.Tools
open CMemory Rx

/-- What `libusb_control_transfer` answers a poll for `wLength` bytes: a negative code, or the bytes
    it counts. A transfer that failed may have stored bytes as well. -/
inductive PollReply (wLength : Nat) where
  | failed (code : Int) (stored : List UInt8) (negative : code < 0)
      (fits : stored.length ≤ wLength)
  | received (raw : List UInt8) (fits : raw.length ≤ wLength)

namespace PollReply
variable {wLength : Nat}

/-- The value returned. -/
def ret : PollReply wLength → Int
  | .failed code _ _ _ => code
  | .received raw _ => raw.length

/-- The bytes that are in the buffer afterwards. -/
def stored : PollReply wLength → List UInt8
  | .failed _ stored _ _ => stored
  | .received raw _ => raw

/-- The bytes that have been received. -/
def raw : PollReply wLength → List UInt8
  | .failed _ _ _ _ => []
  | .received raw _ => raw

/-- No more bytes are stored than asked for. -/
lemma stored_length_le (reply : PollReply wLength) : reply.stored.length ≤ wLength := by
  cases reply with
  | failed _ _ _ fits => exact fits
  | received _ fits => exact fits

end PollReply

/-- What `ks959_rx_decode_chunk` returns and leaves behind, and whether it took its break. -/
structure RxDecoded (ι : Type) where
  full : Bool
  state : UInt8
  produced : Nat
  mem : Mem ι UInt8

/-- What `ks959_rx_decode_inplace` leaves behind its pointers. -/
structure RxInplace (ι : Type) where
  state : UInt8
  decodedLen : Nat
  mem : Mem ι UInt8

section
variable {ι : Type} [DecidableEq ι]

/-- `ks959_rx_poll`, `ks959_poll_rx_raw`: the value returned, and the bytes stored in the buffer. -/
def rxPoll {wLength : Nat} (mem : Mem ι UInt8) (buf : ι) (reply : PollReply wLength) :
    Option (Int × Mem ι UInt8) := do
  let mem ← mem.write buf reply.stored
  some (reply.ret, mem)

/-- The loop of `ks959_rx_decode_chunk`. -/
def rxDecodeLoop (inBuf outBuf : ι) (outBufSize : Nat) :
    (left i produced : Nat) → UInt8 → Mem ι UInt8 → Option (RxDecoded ι)
  | 0, _, produced, state, mem => some ⟨false, state, produced, mem⟩
  | left + 1, i, produced, state, mem => do
    let state := state + 1
    let byte ← mem.load inBuf i
    let decoded := byte ^^^ state ^^^ 0x55
    if state = 0 then
      rxDecodeLoop inBuf outBuf outBufSize left (i + 1) produced state mem
    else if outBufSize ≤ produced then
      -- `break`
      some ⟨true, state, produced, mem⟩
    else do
      let mem ← mem.store outBuf produced decoded
      rxDecodeLoop inBuf outBuf outBufSize left (i + 1) (produced + 1) state mem

/-- `ks959_rx_decode_chunk`. -/
def rxDecodeChunk (state : UInt8) (mem : Mem ι UInt8) (inBuf : ι) (inLen : Nat) (outBuf : ι)
    (outBufSize : Nat) : Option (RxDecoded ι) :=
  rxDecodeLoop inBuf outBuf outBufSize inLen 0 0 state mem

/-- The loop of `ks959_rx_decode_inplace`. -/
def rxDecodeInplaceLoop (buf : ι) :
    (left i out : Nat) → UInt8 → Mem ι UInt8 → Option (RxInplace ι)
  | 0, _, out, state, mem => some ⟨state, out, mem⟩
  | left + 1, i, out, state, mem => do
    let state := state + 1
    let byte ← mem.load buf i
    let decoded := byte ^^^ state ^^^ 0x55
    if state = 0 then
      rxDecodeInplaceLoop buf left (i + 1) out state mem
    else do
      -- the byte stored over has been read, at `i` or before
      let mem ← mem.store buf out decoded
      rxDecodeInplaceLoop buf left (i + 1) (out + 1) state mem

/-- `ks959_rx_decode_inplace`. -/
def rxDecodeInplace (mem : Mem ι UInt8) (buf : ι) (len : Nat) (state : UInt8) :
    Option (RxInplace ι) :=
  rxDecodeInplaceLoop buf len 0 0 state mem

variable {inBuf outBuf buf : ι} {outBufSize inLen left i produced room : Nat} {state : UInt8}
  {mem : Mem ι UInt8}

/-- A poll stores its bytes at the start of the buffer. -/
lemma rxPoll_eq {wLength : Nat} {reply : PollReply wLength} (holds : wLength ≤ (mem buf).length) :
    rxPoll mem buf reply = some (reply.ret, mem.splice buf reply.stored) := by
  rw [rxPoll, Mem.write_eq (reply.stored_length_le.trans holds)]
  rfl

/-- The loop drives the session decoder over the two buffers. -/
lemma rxDecodeLoop_eq :
    rxDecodeLoop inBuf outBuf outBufSize left i produced state mem
      = (drive rxDecoder inBuf outBuf outBufSize left i produced state mem).map
          fun run => ⟨!run.complete, run.state, run.produced, run.mem⟩ := by
  induction left generalizing i produced state mem with
  | zero => rfl
  | succ left ih =>
    cases read : mem.load inBuf i with
    | none => simp [rxDecodeLoop, drive, read]
    | some byte =>
      by_cases wrap : state + 1 = 0
      · simp [rxDecodeLoop, drive, read, emit_none, next_eq, wrap, ih]
      · by_cases full : outBufSize ≤ produced
        · simp [rxDecodeLoop, drive, read, emit_some, next_eq, wrap, full]
        · cases write : mem.store outBuf produced (byte ^^^ (state + 1) ^^^ 0x55) with
          | none => simp [rxDecodeLoop, drive, read, emit_some, wrap, full, write]
          | some mem' => simp [rxDecodeLoop, drive, read, emit_some, next_eq, wrap, full, write, ih]

/-- The loop without the break drives the session decoder too, as long as there is room. -/
lemma rxDecodeInplaceLoop_eq (enough : produced + left ≤ room) :
    rxDecodeInplaceLoop buf left i produced state mem
      = (drive rxDecoder buf buf room left i produced state mem).map
          fun run => ⟨run.state, run.produced, run.mem⟩ := by
  induction left generalizing i produced state mem with
  | zero => rfl
  | succ left ih =>
    have space : ¬ room ≤ produced := by omega
    have stay : produced + left ≤ room := by omega
    have move : produced + 1 + left ≤ room := by omega
    cases read : mem.load buf i with
    | none => simp [rxDecodeInplaceLoop, drive, read]
    | some byte =>
      by_cases wrap : state + 1 = 0
      · simp [rxDecodeInplaceLoop, drive, read, emit_none, next_eq, wrap, ih stay]
      · cases write : mem.store buf produced (byte ^^^ (state + 1) ^^^ 0x55) with
        | none => simp [rxDecodeInplaceLoop, drive, read, emit_some, wrap, space, write]
        | some mem' =>
          simp [rxDecodeInplaceLoop, drive, read, emit_some, next_eq, wrap, space, write,
            ih move]

/-- A driven decoder with room for every byte it reads. -/
lemma drive_rxDecoder (holds : inLen ≤ (mem inBuf).length) (fits : inLen ≤ room)
    (valid : room ≤ (mem outBuf).length) :
    drive rxDecoder inBuf outBuf room inLen 0 0 state mem
      = some ⟨true, rxDecoder.final state ((mem inBuf).take inLen),
          (rxDecoder.output state ((mem inBuf).take inLen)).length,
          mem.splice outBuf (rxDecoder.output state ((mem inBuf).take inLen))⟩ := by
  have short : (rxDecoder.output state ((mem inBuf).take inLen)).length ≤ room := by
    refine Transducer.length_output_le.trans ?_
    rw [List.length_take_of_le holds]
    exact fits
  rw [drive_eq_within valid holds, Transducer.within_complete_iff.mpr short,
    Transducer.within_state short, Transducer.within_out, List.take_of_length_le short]

/-- With room for the whole chunk the break is not taken. -/
lemma rxDecodeChunk_eq (holds : inLen ≤ (mem inBuf).length) (fits : inLen ≤ outBufSize)
    (valid : outBufSize ≤ (mem outBuf).length) :
    rxDecodeChunk state mem inBuf inLen outBuf outBufSize
      = some ⟨false, rxDecoder.final state ((mem inBuf).take inLen),
          (rxDecoder.output state ((mem inBuf).take inLen)).length,
          mem.splice outBuf (rxDecoder.output state ((mem inBuf).take inLen))⟩ := by
  rw [rxDecodeChunk, rxDecodeLoop_eq, drive_rxDecoder holds fits valid]
  rfl

/-- A buffer decoded into itself starts with what its chunk decodes to. -/
lemma rxDecodeInplace_eq (state : UInt8) (holds : inLen ≤ (mem buf).length) :
    rxDecodeInplace mem buf inLen state
      = some ⟨rxDecoder.final state ((mem buf).take inLen),
          (rxDecoder.output state ((mem buf).take inLen)).length,
          mem.splice buf (rxDecoder.output state ((mem buf).take inLen))⟩ := by
  rw [rxDecodeInplace, rxDecodeInplaceLoop_eq (Nat.zero_add inLen).le,
    drive_rxDecoder holds le_rfl holds]
  rfl

end

/-- What a poll reports: the counter after it, the first `dec_len` bytes of the decode buffer when a
    chunk has been decoded, and whether the decoder took its break. -/
structure Poll where
  state : UInt8
  decoded : List UInt8
  full : Bool
deriving DecidableEq, Repr

/-- A poll that decodes nothing. -/
def Poll.quiet (state : UInt8) : Poll := ⟨state, [], false⟩

/-- What a run of polls from the counter `s` is meant to report. -/
def expected : UInt8 → List (List UInt8) → List Poll
  | _, [] => []
  | s, raw :: raws =>
    ⟨rxDecoder.final s raw, rxDecoder.output s raw, false⟩ :: expected (rxDecoder.final s raw) raws

variable {s : UInt8} {raws raws' : List (List UInt8)}

/-- What is expected of two runs of polls in a row: the second goes on with the counter. -/
lemma expected_append : expected s (raws ++ raws')
    = expected s raws ++ expected (rxDecoder.final s raws.flatten) raws' := by
  induction raws generalizing s with
  | nil => rfl
  | cons raw raws ih =>
    rw [List.cons_append, expected, ih, expected, List.flatten_cons, Transducer.final_append,
      List.cons_append]

/-- One report is expected for each poll. -/
lemma length_expected : (expected s raws).length = raws.length := by
  induction raws generalizing s with
  | nil => rfl
  | cons raw raws ih => rw [expected, List.length_cons, ih, List.length_cons]

/-- The decoded blocks are the output chunk by chunk. -/
lemma expected_decoded : (expected s raws).map Poll.decoded = rxDecoder.outputs s raws := by
  induction raws generalizing s with
  | nil => rfl
  | cons raw raws ih => rw [expected, List.map_cons, ih, Transducer.outputs]

/-- No break is expected. -/
lemma expected_full {p : Poll} (mem : p ∈ expected s raws) : p.full = false := by
  induction raws generalizing s with
  | nil => cases mem
  | cons raw raws ih =>
    rcases List.mem_cons.mp mem with rfl | rest
    · rfl
    · exact ih rest

/-- The counter expected after a poll has read everything received so far. -/
lemma expected_state {k : Nat} (lt : k < (expected s raws).length) :
    (expected s raws)[k].state = rxDecoder.final s (raws.take (k + 1)).flatten := by
  induction raws generalizing s k with
  | nil => simp [expected] at lt
  | cons raw raws ih =>
    cases k with
    | zero => simp [expected]
    | succ k =>
      have rest : k < (expected (rxDecoder.final s raw) raws).length := by
        rw [length_expected] at lt ⊢
        simpa using lt
      simp [expected, ih rest, Transducer.final_append]

end Ks959.Tools
