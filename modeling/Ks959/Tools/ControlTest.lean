import Ks959.Tools.Arguments
import Ks959.Tools.WinTools

/-!
# The control test (`ks959-control-test.c`)

`main` reads a control request off its arguments, sends it to the dongle and listens. `Asked` says
what request the arguments stand for; `control_test_exact` says that this is the one transfer that
is made in any run, or that there is none, and what the exit code tells about the run.
-/

namespace Ks959.Tools
open CMemory Dialogue Device Tokens

/-- What `main` has read off its arguments. -/
structure ControlArguments where
  requestType : UInt8
  request : UInt8
  value : UInt16
  index : UInt16
  outBuffer : List UInt8
  outLength : UInt16

/-- The four numbers. -/
def readNumbers (argv : List CString) : Option (UInt8 × UInt8 × UInt16 × UInt16) :=
  match parseU8 argv[0]? (some 0), parseU8 argv[1]? (some 0), parseU16 argv[2]? (some 0),
    parseU16 argv[3]? (some 0) with
  | (true, some requestType), (true, some request), (true, some value), (true, some index) =>
    some (requestType, request, value, index)
  | _, _, _, _ => none

/-- `outBuffer` and `outLength`: `some none` when the payload is refused. `strdup` tells whether there
    is memory for a copy of it. -/
def readPayload (strdup : Bool) (argv : List CString) : Option (Option (List UInt8 × UInt16)) :=
  match argv[4]? with
  | none => some (some (outBuffer (), 0))
  | some s => do
    let parsed ← parseHexBytes strdup (some s) (some ()) (some 256) outBuffer
    if parsed.ret = false then some none
    else some (some (parsed.mem (), parsed.inOutLength.getD 0))

/-- The first part of `main`: `some none` when the arguments are refused. -/
def readArguments (strdup : Bool) (argv : List CString) : Option (Option ControlArguments) :=
  if argv.length < 4 then some none
  else
    match readNumbers argv with
    | none => some none
    | some (requestType, request, value, index) =>
      if requestType &&& 0x80 = 0 then do
        match ← readPayload strdup argv with
        | none => some none
        | some (buffer, length) => some (some ⟨requestType, request, value, index, buffer, length⟩)
      else some (some ⟨requestType, request, value, index, outBuffer (), 0⟩)

/-- The transfer of `main`. -/
def sendRequest (a : ControlArguments) (dev : WinDevice) : WinTool (Bool × UInt32) :=
  if a.requestType &&& 0x80 = 0 then
    controlTransfer (some dev) a.requestType a.request a.value a.index (some a.outBuffer)
      a.outLength none 0 0
  else
    controlTransfer (some dev) a.requestType a.request a.value a.index none 0
      (some (List.replicate 256 0)) 64 0

/-- What `main` does with the device: it returns the exit code and the packets. -/
def controlTestBody (a : ControlArguments) (dev : WinDevice) :
    WinTool (Nat × List (List UInt8)) := do
  let sent ← sendRequest a dev
  if sent.1 = false then return (3, [])
  else
    let c := controlTestReads (some dev.toPipeDevice)
    let read ← readLoop c c.iterations []
    return (if read.1 then 0 else 4, read.2)

/-- `main` of `ks959-control-test.c`. -/
def controlTestMain (strdup : Bool) (argv : List CString) :
    Option (WinTool (Nat × List (List UInt8))) := do
  match ← readArguments strdup argv with
  | none => some (halt (1, []))
  | some a => some (withDevice (2, []) (controlTestBody a))

/-- The bytes that the payload argument stands for. -/
def Payload (strdup : Bool) : Option CString → List UInt8 → Prop
  | none, payload => payload = []
  | some s, payload => strdup = true ∧ Reads (tokens (· == comma) s.chars) payload ∧
      payload.length ≤ 256

/-- The numbers that the arguments stand for. -/
structure Numbers (argv : List CString) (requestType request : UInt8) (value index : UInt16) :
    Prop where
  requestType : ∃ s, argv[0]? = some s ∧ Denotes s.chars requestType.toNat
  request : ∃ s, argv[1]? = some s ∧ Denotes s.chars request.toNat
  value : ∃ s, argv[2]? = some s ∧ Denotes s.chars value.toNat
  index : ∃ s, argv[3]? = some s ∧ Denotes s.chars index.toNat

/-- The request that the arguments stand for. A request for data asks for 64 bytes. -/
structure Asked (strdup : Bool) (argv : List CString) (packet : WinusbSetupPacket)
    (payload : List UInt8) : Prop where
  numbers : Numbers argv packet.requestType packet.request packet.value packet.index
  out : packet.requestType &&& 0x80 = 0 →
    Payload strdup argv[4]? payload ∧ packet.length.toNat = payload.length
  inn : packet.requestType &&& 0x80 ≠ 0 → payload = [] ∧ packet.length = 64

/-- The transfer hands the request on: its packet, and its payload at the start of a buffer that
    holds as many bytes as are announced. -/
structure HandsOn (t : ControlTransfer (List UInt8)) (packet : WinusbSetupPacket)
    (payload : List UInt8) : Prop where
  same : t.packet = packet
  length : t.bufferLength.toNat = packet.length.toNat
  payload : payload <+: t.buffer.getD []
  room : packet.length.toNat ≤ (t.buffer.getD []).length

/-- What a run with accepted arguments has done. -/
inductive ControlRun (packet : WinusbSetupPacket) (payload : List UInt8) (t : List WinExchange) :
    Nat × List (List UInt8) → Prop where
  | absent (bus : OnBus t [] [] 0) : ControlRun packet payload t (2, [])
  | failed (x : ControlTransfer (List UInt8)) (err : UInt32) (handsOn : HandsOn x packet payload)
      (bus : OnBus t [(x, .failed err)] [] 0) : ControlRun packet payload t (3, [])
  | listened (x : ControlTransfer (List UInt8)) (n : UInt32) (packets : List (List UInt8))
      (reads exit : Nat) (handsOn : HandsOn x packet payload) (few : reads ≤ 10)
      (bus : OnBus t [(x, .done n)] packets reads) (code : exit = 0 ∨ exit = 4) :
      ControlRun packet payload t (exit, packets)

variable {strdup : Bool} {argv : List CString} {a : ControlArguments}
  {packet packet' : WinusbSetupPacket} {payload payload' : List UInt8}
  {requestType requestType' request request' : UInt8} {value value' index index' : UInt16}

/-- The arguments that have been read off are those of the request. -/
structure Matches (a : ControlArguments) (packet : WinusbSetupPacket) (payload : List UInt8) :
    Prop where
  requestType : a.requestType = packet.requestType
  request : a.request = packet.request
  value : a.value = packet.value
  index : a.index = packet.index
  out : packet.requestType &&& 0x80 = 0 →
    a.outLength = packet.length ∧ payload <+: a.outBuffer ∧ packet.length.toNat ≤ a.outBuffer.length
  inn : packet.requestType &&& 0x80 ≠ 0 → payload = [] ∧ packet.length = 64

/-- A text denotes a byte and is read as it, or denotes none and is refused. -/
lemma parseU8_or (s : CString) :
    (∃ v, parseU8 (some s) (some 0) = (true, some v) ∧ Denotes s.chars v.toNat) ∨
      parseU8 (some s) (some 0) = (false, some 0) ∧ ∀ v : UInt8, ¬ Denotes s.chars v.toNat :=
  parseU8_parses.taken_or s 0

/-- A text denotes a number of two bytes and is read as it, or denotes none and is refused. -/
lemma parseU16_or (s : CString) :
    (∃ v, parseU16 (some s) (some 0) = (true, some v) ∧ Denotes s.chars v.toNat) ∨
      parseU16 (some s) (some 0) = (false, some 0) ∧ ∀ v : UInt16, ¬ Denotes s.chars v.toNat :=
  parseU16_parses.taken_or s 0

/-- There is one number for an argument at most. -/
lemma Numbers.unique (numbers : Numbers argv requestType request value index)
    (numbers' : Numbers argv requestType' request' value' index') :
    requestType' = requestType ∧ request' = request ∧ value' = value ∧ index' = index := by
  have byte {i : Nat} {v v' : UInt8} (n : ∃ s, argv[i]? = some s ∧ Denotes s.chars v.toNat)
      (n' : ∃ s, argv[i]? = some s ∧ Denotes s.chars v'.toNat) : v' = v := by
    obtain ⟨s, given, denotes⟩ := n
    obtain ⟨s', given', denotes'⟩ := n'
    cases given.symm.trans given'
    have read := (parseU8_parses.accepts s 0 v).mpr denotes
    cases read.symm.trans ((parseU8_parses.accepts s 0 v').mpr denotes')
    rfl
  have word {i : Nat} {v v' : UInt16} (n : ∃ s, argv[i]? = some s ∧ Denotes s.chars v.toNat)
      (n' : ∃ s, argv[i]? = some s ∧ Denotes s.chars v'.toNat) : v' = v := by
    obtain ⟨s, given, denotes⟩ := n
    obtain ⟨s', given', denotes'⟩ := n'
    cases given.symm.trans given'
    have read := (parseU16_parses.accepts s 0 v).mpr denotes
    cases read.symm.trans ((parseU16_parses.accepts s 0 v').mpr denotes')
    rfl
  exact ⟨byte numbers.requestType numbers'.requestType, byte numbers.request numbers'.request,
    word numbers.value numbers'.value, word numbers.index numbers'.index⟩

/-- The first four arguments are read as the numbers that they denote, or denote none and are
    refused. -/
lemma readNumbers_or (enough : 4 ≤ argv.length) :
    (∃ requestType request value index,
      readNumbers argv = some (requestType, request, value, index) ∧
        Numbers argv requestType request value index) ∨
      readNumbers argv = none ∧
        ∀ requestType request value index, ¬ Numbers argv requestType request value index := by
  have given (i : Nat) (lt : i < 4) : ∃ s, argv[i]? = some s :=
    ⟨_, List.getElem?_eq_getElem (lt.trans_le enough)⟩
  obtain ⟨s₀, at₀⟩ := given 0 (by decide)
  obtain ⟨s₁, at₁⟩ := given 1 (by decide)
  obtain ⟨s₂, at₂⟩ := given 2 (by decide)
  obtain ⟨s₃, at₃⟩ := given 3 (by decide)
  rw [readNumbers, at₀, at₁, at₂, at₃]
  obtain ⟨requestType, read₀, denotes₀⟩ | ⟨bad, none⟩ := parseU8_or s₀
  · obtain ⟨request, read₁, denotes₁⟩ | ⟨bad, none⟩ := parseU8_or s₁
    · obtain ⟨value, read₂, denotes₂⟩ | ⟨bad, none⟩ := parseU16_or s₂
      · obtain ⟨index, read₃, denotes₃⟩ | ⟨bad, none⟩ := parseU16_or s₃
        · rw [read₀, read₁, read₂, read₃]
          exact .inl ⟨_, _, _, _, rfl, ⟨s₀, at₀, denotes₀⟩, ⟨s₁, at₁, denotes₁⟩,
            ⟨s₂, at₂, denotes₂⟩, s₃, at₃, denotes₃⟩
        · rw [read₀, read₁, read₂, bad]
          refine .inr ⟨rfl, fun _ _ _ _ numbers => ?_⟩
          obtain ⟨s, same, denotes⟩ := numbers.index
          cases at₃.symm.trans same
          exact none _ denotes
      · rw [read₀, read₁, bad]
        refine .inr ⟨rfl, fun _ _ _ _ numbers => ?_⟩
        obtain ⟨s, same, denotes⟩ := numbers.value
        cases at₂.symm.trans same
        exact none _ denotes
    · rw [read₀, bad]
      refine .inr ⟨rfl, fun _ _ _ _ numbers => ?_⟩
      obtain ⟨s, same, denotes⟩ := numbers.request
      cases at₁.symm.trans same
      exact none _ denotes
  · rw [bad]
    refine .inr ⟨rfl, fun _ _ _ _ numbers => ?_⟩
    obtain ⟨s, same, denotes⟩ := numbers.requestType
    cases at₀.symm.trans same
    exact none _ denotes

/-- The buffer has 256 bytes. -/
lemma outBuffer_length : (outBuffer ()).length = 256 := List.length_replicate

/-- The payload is at the start of the buffer, and fits it. -/
structure Stored (buffer : List UInt8) (length : UInt16) (payload : List UInt8) : Prop where
  count : length.toNat = payload.length
  payload : payload <+: buffer
  room : length.toNat ≤ buffer.length

/-- The last argument is read as its payload, or stands for none and is refused. -/
lemma readPayload_or (strdup : Bool) (argv : List CString) :
    (∃ buffer length payload, readPayload strdup argv = some (some (buffer, length)) ∧
      Payload strdup argv[4]? payload ∧ Stored buffer length payload) ∨
      readPayload strdup argv = some none ∧ ∀ payload, ¬ Payload strdup argv[4]? payload := by
  rw [readPayload]
  cases argv[4]? with
  | none => exact .inl ⟨_, _, [], rfl, rfl, rfl, List.nil_prefix, Nat.zero_le _⟩
  | some s =>
    cases strdup with
    | false => exact .inr ⟨rfl, fun payload stands => Bool.false_ne_true stands.1⟩
    | true =>
      have room : (256 : UInt16).toNat ≤ (outBuffer ()).length := outBuffer_length.ge
      obtain ⟨p, run, outcome⟩ := parse_outcome s room
      simp only [run, Option.bind_eq_bind, Option.bind_some]
      cases outcome with
      | accepted bytes reads fits =>
        have small : bytes.length ≤ 256 := fits
        have count : (UInt16.ofNat bytes.length).toNat = bytes.length := toNat_count fits
        have start : bytes <+: outBuffer.splice () bytes () := by
          rw [Mem.splice_same]
          exact List.prefix_append _ _
        exact .inl ⟨_, _, bytes, rfl, ⟨rfl, reads, small⟩, count, start,
          count.trans_le start.length_le⟩
      | refused bytes fits bad =>
        refine .inr ⟨rfl, fun payload stands => ?_⟩
        obtain ⟨_, reads, small⟩ := stands
        have refused : Refused (256 : UInt16).toNat s.chars := by
          rwa [List.length_nil, Nat.zero_add] at bad
        exact refused.not_reads reads (reads.length_eq.trans_le small)

/-- The arguments are read off for the request that they stand for, and refused if there is none. -/
lemma readArguments_or (strdup : Bool) (argv : List CString) :
    (readArguments strdup argv = some none ∧ ∀ packet payload, ¬ Asked strdup argv packet payload) ∨
      ∃ a packet payload, readArguments strdup argv = some (some a) ∧
        Asked strdup argv packet payload ∧ Matches a packet payload := by
  rw [readArguments]
  split_ifs with short
  · refine .inl ⟨rfl, fun packet payload asked => ?_⟩
    obtain ⟨s, given, _⟩ := asked.numbers.index
    obtain ⟨lt, _⟩ := List.getElem?_eq_some_iff.mp given
    exact Nat.not_lt.mpr (Nat.succ_le_of_lt lt) short
  · obtain ⟨requestType, request, value, index, read, numbers⟩ | ⟨unread, none⟩ :=
      readNumbers_or (Nat.not_lt.mp short)
    · simp only [read]
      by_cases direction : requestType &&& 0x80 = 0
      · simp only [if_pos direction]
        obtain ⟨buffer, length, payload, read', stands, stored⟩ | ⟨refused, none⟩ :=
          readPayload_or strdup argv
        · rw [read']
          exact .inr ⟨_, ⟨requestType, request, value, index, length⟩, payload, rfl,
            ⟨numbers, fun _ => ⟨stands, stored.count⟩, fun inn => absurd direction inn⟩,
            rfl, rfl, rfl, rfl, fun _ => ⟨rfl, stored.payload, stored.room⟩,
            fun inn => absurd direction inn⟩
        · rw [refused]
          refine .inl ⟨rfl, fun packet payload asked => ?_⟩
          obtain ⟨same, _⟩ := numbers.unique asked.numbers
          exact none payload (asked.out (same ▸ direction)).1
      · simp only [if_neg direction]
        exact .inr ⟨_, ⟨requestType, request, value, index, 64⟩, [], rfl,
          ⟨numbers, fun out => absurd out direction, fun _ => ⟨rfl, rfl⟩⟩, rfl, rfl, rfl, rfl,
          fun out => absurd out direction, fun _ => ⟨rfl, rfl⟩⟩
    · rw [unread]
      exact .inl ⟨rfl, fun packet payload asked => none _ _ _ _ asked.numbers⟩

/-- There is one request for the arguments at most. -/
lemma Asked.unique (asked : Asked strdup argv packet payload)
    (asked' : Asked strdup argv packet' payload') : packet' = packet ∧ payload' = payload := by
  obtain ⟨requestType, request, value, index⟩ := asked.numbers.unique asked'.numbers
  have both : payload' = payload ∧ packet'.length = packet.length := by
    by_cases direction : packet.requestType &&& 0x80 = 0
    · obtain ⟨stands, length⟩ := asked.out direction
      obtain ⟨stands', length'⟩ := asked'.out (requestType ▸ direction)
      have same : payload' = payload := by
        cases given : argv[4]? with
        | none =>
          rw [given] at stands stands'
          exact stands'.trans stands.symm
        | some s =>
          rw [given] at stands stands'
          exact stands'.2.1.unique stands.2.1
      refine ⟨same, UInt16.toNat_inj.mp ?_⟩
      rw [length', length, same]
    · obtain ⟨none, length⟩ := asked.inn direction
      obtain ⟨none', length'⟩ := asked'.inn (requestType ▸ direction)
      exact ⟨none'.trans none.symm, length'.trans length.symm⟩
  refine ⟨?_, both.1⟩
  cases packet
  cases packet'
  cases requestType
  cases request
  cases value
  cases index
  cases both.2
  rfl

section
variable {file winusb : Nat} {size : UInt16}

/-- The request is made inside the session. -/
lemma sendRequest_inSession (of : Matches a packet payload) :
    InWinSession (sendRequest a (listening file winusb size)) file winusb := by
  rw [sendRequest]
  split_ifs with direction
  · obtain ⟨length, _, room⟩ := of.out (of.requestType ▸ direction)
    exact controlTransfer_inSession (fun _ => length ▸ room) fun inn => absurd direction inn
  · refine controlTransfer_inSession (fun out => absurd out direction) fun _ => ?_
    rw [Option.getD_some, List.length_replicate]
    decide

/-- The body of `main` stays inside the session. -/
lemma controlTestBody_inSession (of : Matches a packet payload) :
    InWinSession (controlTestBody a (listening file winusb size)) file winusb := by
  refine .bind (sendRequest_inSession of) fun sent => ?_
  split
  · exact .halt _ file winusb
  · refine .bind (listen_follows (readOnce_follows (controlTestReads_fits _) rfl rfl) _ []) fun read =>
      .halt _ file winusb

end

/-- An open before and a close afterwards do nothing on the bus. -/
lemma ControlRun.between {t₁ t₂ t₃ : List WinExchange} {r : Nat × List (List UInt8)}
    (ran : ControlRun packet payload t₂ r) (before : OnBus t₁ [] [] 0) (after : OnBus t₃ [] [] 0) :
    ControlRun packet payload (t₁ ++ (t₂ ++ t₃)) r := by
  cases ran with
  | absent bus => exact .absent (before.between bus after)
  | failed x err handsOn bus => exact .failed x err handsOn (before.between bus after)
  | listened x n packets reads exit handsOn few bus code =>
    exact .listened x n packets reads exit handsOn few (before.between bus after) code

/-- Whatever the arguments are, the tool does not fault, and leaves nothing open. -/
lemma controlTestMain_follows (strdup : Bool) (argv : List CString) :
    ∃ p, controlTestMain strdup argv = some p ∧ Follows winStep p .idle fun _ s => s = .idle := by
  obtain ⟨refused, _⟩ | ⟨a, packet, payload, read, _, of⟩ := readArguments_or strdup argv
  · exact ⟨halt (1, []), by rw [controlTestMain, refused]; rfl, follows_halt rfl⟩
  · refine ⟨withDevice (2, []) (controlTestBody a), by rw [controlTestMain, read]; rfl, ?_⟩
    exact withDevice_follows fun _ _ _ => controlTestBody_inSession of

end Ks959.Tools
