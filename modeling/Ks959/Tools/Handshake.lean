import Ks959.Tools.ArmScan
import Ks959.Tools.TxProbe
import Ks959.Tx.Layout
import Ks959.Tx.Transaction

/-!
# The handshake probe (`aladin_handshake_probe.c`)

The probe configures the dongle twice and then sends six frames, and after each of the eight it
polls and decodes with one counter. A transfer that fails is printed and changes nothing.
`handshake_probe_exact` says so of a whole run: what goes out is the plan, frame by frame and
recoverable, and of what comes in no byte is lost, across the steps.
-/

namespace Ks959.Tools
open CMemory Dialogue Rx Tx

/-- The objects of `ks959_send_fragment`. -/
inductive FragmentBuffer where
  | clear
  | tx
deriving DecidableEq, Repr

def fragmentMem (clearBuf : List UInt8) (txBuf : Vector UInt8 256) : Mem FragmentBuffer UInt8
  | .clear => clearBuf
  | .tx => txBuf.toList

/-- `ks959_send_out8_9600`. -/
def sendOut8At9600 (wValue : UInt16) : Tool (Option Int) := do
  let ret ← sendOut8 wValue (out8 9600 0x03)
  return some ret

/-- `ks959_send_fragment`; `txBuf` is what its array holds at the start. -/
def sendFragment (txBuf : Vector UInt8 256) (clearBuf : List UInt8) : Tool (Option Int) :=
  let clearLen := UInt64.ofNat clearBuf.length
  match txObfuscate (fragmentMem clearBuf txBuf) (some .clear) clearLen (some .tx) 256 (some 0) with
  | none => halt none
  | some obfuscated =>
    if obfuscated.ret ≠ 0 then
      return some (-1)
    else do
      let txLen := (obfuscated.outLen.getD 0).toUInt16
      let ret ← usb (.controlOut (outSetup clearLen.toUInt16 0x0000 txLen)
        (some ((obfuscated.mem .tx).take txLen.toNat)))
      return some ret

/-- `frames`. -/
def frames : List (List UInt8) :=
  [[0x1B], [0x1B, 0x1B], [0x00], [0x00, 0x00], [0x10, 0x00], [0x10, 0x01]]

/-- The steps of `main`: something is sent, and `poll_after_step` goes on with the counter. -/
def handshakeTurns (locals : Nat → RxLocals) (polls : Nat) :
    (step : Nat) → UInt8 → List (Tool (Option Int)) → Tool (Option PollRun)
  | _, state, [] => halt (some ⟨state, []⟩)
  | step, state, send :: sends => do
    match ← send with
    | none => return none
    | some _ =>
      -- what is returned is ignored
      match ← pollTurns polls state (locals step).mem with
      | none => return none
      | some polled =>
        let rest ← handshakeTurns locals polls (step + 1) polled.state sends
        return rest.map fun run => { run with polls := polled.polls ++ run.polls }

/-- `main` of `aladin_handshake_probe.c`. The arrays of the functions it calls hold anything. -/
def handshakeMain (locals : Nat → RxLocals) (txBuf : List UInt8 → Vector UInt8 256)
    (argv : List CString) : Tool (Int × Option (Option PollRun)) :=
  sessionMain (handshakeTurns locals (pollsArgument argv 12) 0 0
    ([sendOut8At9600 0x0200, sendOut8At9600 0x0000]
      ++ frames.map fun frame => sendFragment (txBuf frame) frame))

/-- The bytes received in a poll. -/
def raw? : UsbExchange → Option (List UInt8)
  | ⟨.controlIn _, reply⟩ => some (PollReply.raw reply)
  | _ => none

/-- The bytes received in a run, poll by poll. -/
def raws (t : List UsbExchange) : List (List UInt8) := t.filterMap raw?

/-- The request for a frame. -/
def fragmentRequest (frame : List UInt8) : Request :=
  .out (outSetup (UInt16.ofNat frame.length) 0x0000 (UInt16.ofNat (paddedLength frame.length)))
    (some (encode frame))

/-- The two requests for 9600 baud. -/
def preinitRequests : List Request :=
  [.out (outSetup 0x0200 0x0000 8) (some (out8 9600 0x03).image),
    .out (outSetup 0x0000 0x0000 8) (some (out8 9600 0x03).image)]

variable {R S : Type} {t t' : List UsbExchange} {state : UInt8} {polls : Nat}

/-- The bytes received in two runs in a row are those of the first, then of the second. -/
lemma raws_append : raws (t ++ t') = raws t ++ raws t' := List.filterMap_append

/-- A poll and its reply. -/
def polled (reply : PollReply 255) : UsbExchange := ⟨.controlIn (rxSetup 255), reply⟩

/-- A run of polls makes as many poll requests as it has replies. -/
lemma requests_polled (replies : List (PollReply 255)) :
    requests (replies.map polled) = pollRequests replies.length := by
  induction replies with
  | nil => rfl
  | cons reply replies ih => exact congrArg (.poll (rxSetup 255) :: ·) ih

/-- A run of polls receives what its replies carry. -/
lemma raws_polled (replies : List (PollReply 255)) :
    raws (replies.map polled) = replies.map PollReply.raw := by
  induction replies with
  | nil => rfl
  | cons reply replies ih => exact congrArg (reply.raw :: ·) ih

/-- A turn of the receive loop is followed by the rest of it. -/
lemma pollLoop_cons {mem : Mem RxBuffer UInt8} {reply : PollReply 255} {turn : Polled RxBuffer}
    {replies : List (PollReply 255)} (turned : pollOnce state mem reply = some turn) :
    pollLoop state mem (reply :: replies) = (pollLoop turn.poll.state turn.mem replies).map
      fun run => { run with polls := turn.poll :: run.polls } := by
  rw [pollLoop, turned, Option.map_eq_bind]
  rfl

/-- The loop polls and decodes as the receive loop over the replies does. -/
lemma pollTurns_ensures (turns : Nat) {mem : Mem RxBuffer UInt8}
    (sized : ∀ b, (mem b).length = 255) :
    Ensures (pollTurns turns state mem) fun t r => ∃ replies : List (PollReply 255),
      replies.length = turns ∧ t = replies.map polled ∧ r = pollLoop state mem replies := by
  induction turns generalizing state mem with
  | zero => exact ensures_halt ⟨[], rfl, rfl, rfl⟩
  | succ turns ih =>
    refine ensures_usb fun reply => ?_
    obtain ⟨mem', sized', turn⟩ := pollOnce_eq state sized reply
    cases turned : pollOnce state mem reply with
    | none => cases turned.symm.trans turn
    | some next =>
      have same := Option.some.inj (turned.symm.trans turn)
      have sized' b : (next.mem b).length = 255 := by
        rw [same]
        exact sized' b
      refine (ih sized').bind fun before r polls => ?_
      obtain ⟨replies, count, rfl, rfl⟩ := polls
      refine ensures_halt ⟨reply :: replies, congrArg (· + 1) count, ?_, ?_⟩
      · rw [List.append_nil]
        rfl
      · exact (pollLoop_cons turned).symm

/-- The loop receives one reply a turn, and decodes as one pass over them does. -/
lemma pollTurns_received (turns : Nat) {mem : Mem RxBuffer UInt8}
    (sized : ∀ b, (mem b).length = 255) :
    Ensures (pollTurns turns state mem) fun t r => requests t = pollRequests turns ∧
      r = some ⟨rxDecoder.final state (raws t).flatten, expected state (raws t)⟩ := by
  refine (pollTurns_ensures turns sized).mono fun t r polls => ?_
  obtain ⟨replies, rfl, rfl, rfl⟩ := polls
  exact ⟨requests_polled replies, by rw [raws_polled]; exact pollLoop_eq sized replies⟩

/-- The dialogue sends one request, and does not fault. -/
def Sends (r : Request) (send : Tool (Option Int)) : Prop :=
  Ensures send fun t ret => requests t = [r] ∧ raws t = [] ∧ ret.isSome

/-- A configuration is sent as one request. -/
lemma sendOut8At9600_sends (wValue : UInt16) :
    Sends (.out (outSetup wValue 0x0000 8) (some (out8 9600 0x03).image))
      (sendOut8At9600 wValue) :=
  ensures_ask fun _ => ensures_halt ⟨rfl, rfl, rfl⟩

/-- What the library encodes, the probe encodes to the same. -/
lemma txObfuscate_accepted {ι : Type} [DecidableEq ι] {c : TxCall ι} (accepted : c.Accepted) :
    ∃ outLen : UInt64, outLen.toNat = paddedLength c.clearLen.toNat ∧
      txObfuscate c.mem (some c.clearBuf) c.clearLen (some c.outBuf) c.outBufSize (some c.outLen)
        = some ⟨0, some outLen, c.mem.splice c.outBuf (encode c.fragment)⟩ := by
  obtain ⟨outLen, counted, run⟩ := TxCall.run_of_accepted accepted
  have real := c.clearLen_real
  have nonzero : padded c.clearLen ≠ 0 := by
    rw [Ne, padded_eq_zero_iff]
    omega
  have agree : EncodersAgree c.run _ := agree_of_pointers.mpr nonzero
  rw [run] at agree
  refine ⟨outLen, counted, ?_⟩
  cases tool : txObfuscate c.mem (some c.clearBuf) c.clearLen (some c.outBuf) c.outBufSize
    (some c.outLen) with
  | none =>
    rw [tool] at agree
    cases agree
  | some t =>
    rw [tool] at agree
    cases agree with
    | succeed ok zero outLen' bytes =>
      obtain ⟨ret, len, mem⟩ := t
      cases zero
      cases outLen'
      cases bytes
      rfl
    | fail error => exact absurd rfl error

/-- The call for a frame. -/
lemma txObfuscate_frame {frame : List UInt8} (nonempty : 1 ≤ frame.length)
    (short : frame.length ≤ 240) (txBuf : Vector UInt8 256) :
    ∃ outLen : UInt64, outLen.toNat = paddedLength frame.length ∧
      txObfuscate (fragmentMem frame txBuf) (some .clear) (UInt64.ofNat frame.length) (some .tx)
          256 (some 0)
        = some ⟨0, some outLen, (fragmentMem frame txBuf).splice .tx (encode frame)⟩ := by
  have len : (UInt64.ofNat frame.length).toNat = frame.length :=
    UInt64.toNat_ofNat_of_lt' (lt_of_le_of_lt short (by decide))
  let c : TxCall FragmentBuffer :=
    { mem := fragmentMem frame txBuf
      clearBuf := .clear
      clearLen := UInt64.ofNat frame.length
      outBuf := .tx
      outBufSize := sndPacketSize
      outLen := 0
      clearBuf_holds := len.le
      clearLen_real := by rw [len]; omega
      outBuf_holds := Vector.length_toList.ge
      apart := nofun }
  have accepted : c.Accepted :=
    (TxCall.accepted_packet rfl).mpr ⟨nonempty.trans len.ge, len.le.trans short⟩
  have whole : c.fragment = frame := (congrArg (frame.take ·) len).trans List.take_length
  obtain ⟨outLen, counted, run⟩ := txObfuscate_accepted accepted
  rw [whole] at run
  exact ⟨outLen, counted.trans (congrArg paddedLength len), run⟩

/-- A frame that fits is sent. -/
lemma sendFragment_eq {frame : List UInt8} (nonempty : 1 ≤ frame.length)
    (short : frame.length ≤ 240) (txBuf : Vector UInt8 256) :
    sendFragment txBuf frame
      = usb (.controlOut (outSetup (UInt16.ofNat frame.length) 0x0000
          (UInt16.ofNat (paddedLength frame.length))) (some (encode frame)))
        >>= fun ret => halt (some ret) := by
  obtain ⟨outLen, counted, run⟩ := txObfuscate_frame nonempty short txBuf
  have narrow : outLen.toUInt16.toNat = (encode frame).length := by
    rw [UInt64.toNat_toUInt16, counted, length_encode, Nat.mod_eq_of_lt]
    unfold paddedLength
    omega
  have length : outLen.toUInt16 = UInt16.ofNat (paddedLength frame.length) := by
    rw [← counted, ← UInt64.toUInt16_ofNat', UInt64.ofNat_toNat]
  simp only [sendFragment, run, ne_eq, not_true_eq_false, if_false, Option.getD_some]
  rw [narrow, Mem.take_splice, length, UInt64.toUInt16_ofNat']
  rfl

/-- A frame that fits is sent as one request. -/
lemma sendFragment_sends {frame : List UInt8} (nonempty : 1 ≤ frame.length)
    (short : frame.length ≤ 240) (txBuf : Vector UInt8 256) :
    Sends (fragmentRequest frame) (sendFragment txBuf frame) := by
  rw [sendFragment_eq nonempty short txBuf]
  exact ensures_usb fun ret => ensures_halt ⟨rfl, rfl, rfl⟩

/-- Step by step one request goes out, the polls follow, and the counter goes on. -/
lemma handshakeTurns_ensures (locals : Nat → RxLocals) {rs : List Request}
    {sends : List (Tool (Option Int))} (all : List.Forall₂ Sends rs sends) (step : Nat) :
    Ensures (handshakeTurns locals polls step state sends) fun t r =>
      requests t = rs.flatMap (fun r => r :: pollRequests polls) ∧
        r = some ⟨rxDecoder.final state (raws t).flatten, expected state (raws t)⟩ := by
  induction all generalizing step state with
  | nil => exact ensures_halt ⟨rfl, rfl⟩
  | @cons r send rs sends sent _ ih =>
    refine sent.bind fun t₁ ret first => ?_
    obtain ⟨asked₁, silent, ok⟩ := first
    obtain ⟨ret, rfl⟩ := Option.isSome_iff_exists.mp ok
    refine (pollTurns_received polls (locals step).sized).bind fun t₂ run second => ?_
    obtain ⟨asked₂, rfl⟩ := second
    refine (ih (step + 1)).bind fun t₃ run third => ensures_halt ?_
    obtain ⟨asked₃, rfl⟩ := third
    constructor
    · rw [List.append_nil, requests_append, requests_append, asked₁, asked₂, asked₃]
      rfl
    · rw [List.append_nil, raws_append, raws_append, silent, List.nil_append, expected_append,
        List.flatten_append, Transducer.final_append]
      rfl

/-- Only a poll receives. -/
lemma raws_unasked (unasked : requests t = []) : raws t = [] := by
  refine List.filterMap_eq_nil_iff.mpr fun x mem => ?_
  have none := List.filterMap_eq_nil_iff.mp unasked x mem
  obtain ⟨q, a⟩ := x
  cases q with
  | controlIn setup => cases none
  | _ => rfl

/-- The request takes a frame to the dongle: it has the bytes it announces, and the frame can be
    read back from them and `wValue`. -/
def Carries (frame : List UInt8) : Request → Prop
  | .out setup (some data) => OutFits setup (some data) ∧ recover setup.value data = frame
  | _ => False

/-- What the probe has done when it is over. -/
structure Handshaken (polls : Nat) (t : List UsbExchange) (run : PollRun) : Prop where
  /-- Two configurations and the frames go out in order, and the polls come behind each of them. -/
  planned : ∃ sent, List.Forall₂ Carries frames sent ∧
    requests t = (preinitRequests ++ sent).flatMap fun r => r :: pollRequests polls
  /-- No byte received is lost, from the first poll of the first step to the last of the last. -/
  lossless : Lossless (raws t) run.polls

/-- The request for a frame has as many bytes as it announces. -/
lemma fragmentRequest_fits {frame : List UInt8} (short : frame.length ≤ 240) :
    OutFits (outSetup (UInt16.ofNat frame.length) 0x0000
      (UInt16.ofNat (paddedLength frame.length))) (some (encode frame)) := by
  refine ⟨(by decide : reqtypeOutClassIface &&& 0x80 = 0), ?_⟩
  change (encode frame).length = (UInt16.ofNat (paddedLength frame.length)).toNat
  rw [length_encode, UInt16.toNat_ofNat_of_lt']
  unfold paddedLength
  exact lt_of_le_of_lt (by omega : _ ≤ 256) (by decide)

/-- A frame that fits is carried. -/
lemma fragmentRequest_carries {frame : List UInt8} (short : frame.length ≤ 240) :
    Carries frame (fragmentRequest frame) := by
  have value : (UInt16.ofNat frame.length).toNat = frame.length :=
    UInt16.toNat_ofNat_of_lt' (lt_of_le_of_lt short (by decide))
  exact ⟨fragmentRequest_fits short, recover_encode value⟩

/-- All frames of the tool can be sent. -/
lemma frames_fit : ∀ frame ∈ frames, 1 ≤ frame.length ∧ frame.length ≤ 240 := by decide

/-- Whatever libusb answers, the probe sends its configurations and its frames in order, polls after
    each, and loses no byte. Without a session it sends nothing. -/
theorem handshake_probe_exact (locals : Nat → RxLocals) (txBuf : List UInt8 → Vector UInt8 256)
    (argv : List CString) (t : List UsbExchange) (code : Int) (r : Option (Option PollRun))
    (run : Runs (handshakeMain locals txBuf argv) t (code, r)) :
    (code = 1 ∧ r = none ∧ requests t = []) ∨
      ∃ run, code = 0 ∧ r = some (some run) ∧ Handshaken (pollsArgument argv 12) t run := by
  have fragments : List.Forall₂ Sends (frames.map fragmentRequest)
      (frames.map fun frame => sendFragment (txBuf frame) frame) := by
    rw [List.forall₂_map_left_iff, List.forall₂_map_right_iff, List.forall₂_same]
    exact fun frame mem =>
      sendFragment_sends (frames_fit frame mem).1 (frames_fit frame mem).2 (txBuf frame)
  have sends := List.Forall₂.cons (sendOut8At9600_sends 0x0200)
    (List.Forall₂.cons (sendOut8At9600_sends 0x0000) fragments)
  obtain ⟨same, unasked⟩ | ⟨t₁, t₂, t₃, b, rfl, before, after, done, same⟩ :=
    sessionMain_ensures (handshakeTurns_ensures locals sends 0) t (code, r) run
  · cases same
    exact .inl ⟨rfl, rfl, unasked⟩
  · cases same
    obtain ⟨asked, rfl⟩ := done
    refine .inr ⟨_, rfl, rfl, ⟨⟨frames.map fragmentRequest, ?_, ?_⟩, ?_⟩⟩
    · rw [List.forall₂_map_right_iff, List.forall₂_same]
      exact fun frame mem => fragmentRequest_carries (frames_fit frame mem).2
    · rw [requests_append, requests_append, before, after, List.append_nil, asked]
      rfl
    · rw [raws_append, raws_append, raws_unasked before, raws_unasked after, List.append_nil]
      exact lossless_expected _

/-- Local arrays of zeros. -/
def zeroLocals : RxLocals := ⟨.replicate 255 0, .replicate 255 0⟩

/-- With one poll after each of the eight steps. -/
theorem handshake_probe_exact_served :
    ∃ run, (served (handshakeMain (fun _ => zeroLocals) (fun _ => .replicate 256 0)
        [⟨[0x31], by decide⟩])).2 = (0, some (some run)) ∧
      Handshaken 1 (served (handshakeMain (fun _ => zeroLocals) (fun _ => .replicate 256 0)
        [⟨[0x31], by decide⟩])).1 run := by
  obtain ⟨tool, same⟩ : ∃ tool, tool = handshakeMain (fun _ => zeroLocals)
    (fun _ => .replicate 256 0) [⟨[0x31], by decide⟩] := ⟨_, rfl⟩
  have success : (served tool).2.1 = 0 := by
    rw [same]
    exact served_session _
  have run : Runs tool (served tool).1 ((served tool).2.1, (served tool).2.2) :=
    against_runs _ [] tool
  rw [← same]
  rw [same] at run
  obtain ⟨failure, _⟩ | ⟨run, _, whole, done⟩ := handshake_probe_exact _ _ _ _ _ _ run
  · rw [← same, success] at failure
    cases failure
  · rw [← same] at whole done
    exact ⟨run, Prod.ext success whole, done⟩

end Ks959.Tools
