import Ks959.Exchange.Dongle
import Ks959.Tools.UsbTools

/-!
# Listening to the dongle (`src/tools/linux`)

The receive loops of the Linux tools at the other end of the dongle of `Dongle`. While a tool polls,
bytes come in over the air at any time; `Overheard d heard replies d'` says that the dongle has
heard `heard` between the states `d` and `d'` and has answered the polls with `replies`, in some
order of the two.

`Overheard.inStep` is the invariant: a decoder in step with the dongle stays so, and what it decodes
of the replies and of the line is what has been heard. `listeners_in_tune` is the result for the
three tools.
-/

namespace Ks959.Exchange
open Device Rx Tools

/-- The request of a poll, as the tools send it. -/
def receiveRequest (wLength : Nat) : WinusbSetupPacket :=
  fillPacket (rxSetup (UInt16.ofNat wLength))

/-- Between two states the dongle hears bytes and answers polls. A poll that fails takes nothing
    off the line. -/
inductive Overheard {wLength : Nat} :
    Dongle → List UInt8 → List (PollReply wLength) → Dongle → Prop where
  | done (d : Dongle) : Overheard d [] [] d
  | hear {d d' : Dongle} {garbage byte : UInt8} {heard : List UInt8}
      {replies : List (PollReply wLength)}
      (rest : Overheard (d.hear garbage byte) heard replies d') :
      Overheard d (byte :: heard) replies d'
  | poll {d d₁ d' : Dongle} {n : Nat} {raw heard : List UInt8} {replies : List (PollReply wLength)}
      (served : d.serve (receiveRequest wLength) n = some (raw, d₁)) (fits : raw.length ≤ wLength)
      (rest : Overheard d₁ heard replies d') :
      Overheard d heard (.received raw fits :: replies) d'
  | fail {d d' : Dongle} {code : Int} {stored heard : List UInt8}
      {replies : List (PollReply wLength)}
      (negative : code < 0) (fits : stored.length ≤ wLength) (rest : Overheard d heard replies d') :
      Overheard d heard (.failed code stored negative fits :: replies) d'

/-- The bytes that the tool has decoded. -/
def decodedBytes (run : PollRun) : List UInt8 := (run.polls.map Poll.decoded).flatten

/-- A tool has decoded what the dongle has heard, up to what is on the line, and its counter is the
    dongle's up to the slots on the line. -/
structure InTune (heard : List UInt8) (d : Dongle) (run : PollRun) : Prop where
  decoded : decodedBytes run ++ rxDecoder.output run.state d.line = heard
  counter : rxDecoder.final run.state d.line = d.counter

variable {wLength : Nat} {d d' d'' : Dongle} {s : UInt8} {heard heard' : List UInt8}
  {replies replies' : List (PollReply wLength)}

/-- The bytes received in the polls, one after another. -/
def receivedBytes (replies : List (PollReply wLength)) : List UInt8 :=
  (replies.map PollReply.raw).flatten

/-- A decoder in step with the dongle stays so, and no byte is lost between the two. -/
lemma Overheard.inStep (overheard : Overheard d heard replies d')
    (step : rxDecoder.final s d.line = d.counter) :
    rxDecoder.output s d.line ++ heard = rxDecoder.output s (receivedBytes replies ++ d'.line) ∧
      rxDecoder.final s (receivedBytes replies ++ d'.line) = d'.counter := by
  induction overheard generalizing s with
  | done d => exact ⟨List.append_nil _, step⟩
  | @hear d d' garbage byte heard replies rest ih =>
    obtain ⟨decoded, kept⟩ := @Dongle.hear_decodes d s garbage byte step
    obtain ⟨all, counter⟩ := ih kept
    refine ⟨?_, counter⟩
    rw [← all, decoded, List.append_assoc]
    rfl
  | @poll d d₁ d' n raw heard replies served fits rest ih =>
    obtain ⟨_, _, line, same, _⟩ := Dongle.serve_inv served
    have left : rxDecoder.final (rxDecoder.final s raw) d₁.line = d₁.counter := by
      rw [same, ← step, line, Transducer.final_append]
    obtain ⟨all, counter⟩ := ih left
    have split : receivedBytes (.received raw fits :: replies) ++ d'.line
        = raw ++ (receivedBytes replies ++ d'.line) := List.append_assoc ..
    rw [split, Transducer.output_append, Transducer.final_append, ← all, line,
      Transducer.output_append]
    exact ⟨List.append_assoc .., counter⟩
  | fail negative fits rest ih => exact ih step

/-- A tool that reports what is expected of the replies is in tune. -/
lemma Overheard.inTune (overheard : Overheard .fresh heard replies d) :
    InTune heard d ⟨rxDecoder.final 0 (receivedBytes replies),
      expected 0 (replies.map PollReply.raw)⟩ := by
  obtain ⟨all, counter⟩ := overheard.inStep (s := 0) rfl
  rw [Transducer.output_append] at all
  rw [Transducer.final_append] at counter
  refine ⟨?_, counter⟩
  rw [decodedBytes, expected_decoded, ← Transducer.output_flatten]
  exact all.symm

/-- Two stretches of listening in a row are one. -/
lemma Overheard.append (before : Overheard d heard replies d')
    (after : Overheard d' heard' replies' d'') :
    Overheard d (heard ++ heard') (replies ++ replies') d'' := by
  induction before with
  | done d => exact after
  | hear rest ih => exact .hear (ih after)
  | poll served fits rest ih => exact .poll served fits (ih after)
  | fail negative fits rest ih => exact .fail negative fits (ih after)

/-- So many polls empty the line. -/
lemma emptied (word : wLength < 2 ^ 16) (k : Nat) (enough : d.line.length ≤ wLength * k) :
    ∃ (more : List (PollReply wLength)) (d' : Dongle), more.length = k ∧ Overheard d [] more d' ∧
      d'.line = [] := by
  induction k generalizing d with
  | zero => exact ⟨[], d, rfl, .done d, List.length_eq_zero_iff.mp (Nat.le_zero.mp enough)⟩
  | succ k ih =>
    obtain ⟨n, size⟩ : ∃ n, n = min wLength d.line.length := ⟨_, rfl⟩
    have asked : (receiveRequest wLength).length.toNat = wLength := UInt16.toNat_ofNat_of_lt' word
    have served : d.serve (receiveRequest wLength) n
        = some (d.line.take n, { d with line := d.line.drop n }) :=
      if_pos ⟨by omega, by omega⟩
    have fits : (d.line.take n).length ≤ wLength := by
      rw [List.length_take]
      omega
    have left : (d.line.drop n).length ≤ wLength * k := by
      rw [List.length_drop]
      rw [Nat.mul_succ] at enough
      omega
    obtain ⟨more, d', count, rest, empty⟩ := @ih { d with line := d.line.drop n } left
    exact ⟨.received _ fits :: more, d', congrArg Nat.succ count, .poll served fits rest, empty⟩

/-- Where no poll has failed the probe looks at all replies. -/
lemma beforeError_all (fine : ∀ r ∈ replies, 0 ≤ r.ret) :
    beforeError replies = replies.map PollReply.raw := by
  induction replies with
  | nil => rfl
  | cons reply replies ih =>
    obtain ⟨here, rest⟩ := List.forall_mem_cons.mp fine
    cases reply with
    | failed code stored negative fits => exact absurd here (Int.not_le.mpr negative)
    | received raw fits => exact congrArg (raw :: ·) (ih rest)

/-- The polls before the first error are a part of the run that ends there. -/
lemma Overheard.untilError (overheard : Overheard d heard replies d') :
    ∃ heard₁, ∃ replies₁ : List (PollReply wLength), ∃ d₁, heard₁ <+: heard ∧
      beforeError replies = replies₁.map PollReply.raw ∧ Overheard d heard₁ replies₁ d₁ := by
  induction overheard with
  | done d => exact ⟨[], [], d, List.prefix_rfl, rfl, .done d⟩
  | @hear d d' garbage byte heard replies rest ih =>
    obtain ⟨heard₁, replies₁, d₁, early, before, part⟩ := ih
    exact ⟨byte :: heard₁, replies₁, d₁, (List.prefix_cons_inj byte).mpr early, before, .hear part⟩
  | @poll d d₁ d' n raw heard replies served fits rest ih =>
    obtain ⟨heard₁, replies₁, d₁, early, before, part⟩ := ih
    exact ⟨heard₁, .received raw fits :: replies₁, d₁, early, congrArg (raw :: ·) before,
      .poll served fits part⟩
  | @fail d d' code stored heard replies negative fits rest ih =>
    exact ⟨[], [], d, List.nil_prefix, rfl, .done d⟩

/-- Whenever the bytes come in and however the dongle cuts them, the tools that start with it decode
    what it has heard: the monitor and the handshake probe whatever polls fail, the libusb probe as
    long as none does, and nothing else before. Polls enough give the monitor the rest. -/
theorem listeners_in_tune :
    (∀ heard (replies : List (PollReply 255)) d, Overheard .fresh heard replies d →
      (∀ locals, ∃ run, rxMonitor locals replies = some run ∧ InTune heard d run) ∧
      (∀ steps, steps.flatMap Prod.snd = replies → ∃ run, handshakeSteps 0 steps = some run ∧
        InTune heard d run) ∧
      ∀ k, d.line.length ≤ 255 * k → ∃ more d', more.length = k ∧ Overheard d [] more d' ∧
        ∀ locals, ∃ run, rxMonitor locals (replies ++ more) = some run ∧
          decodedBytes run = heard) ∧
    ∀ heard (replies : List (PollReply 2048)) d, Overheard .fresh heard replies d →
      ∀ rxbuf, ∃ run, libusbProbe rxbuf replies = some run ∧ decodedBytes run <+: heard ∧
        ((∀ r ∈ replies, 0 ≤ r.ret) → InTune heard d run) := by
  refine ⟨fun heard replies d overheard => ⟨fun locals => ?_, ?_, fun k enough => ?_⟩,
    fun heard replies d overheard rxbuf => ?_⟩
  · exact ⟨_, pollLoop_eq locals.sized replies, overheard.inTune⟩
  · rintro steps rfl
    exact ⟨_, handshakeSteps_eq steps, overheard.inTune⟩
  · obtain ⟨more, d', count, rest, empty⟩ := emptied (by decide) k enough
    refine ⟨more, d', count, rest, fun locals => ⟨_, pollLoop_eq locals.sized _, ?_⟩⟩
    have whole := (overheard.append rest).inTune.decoded
    rw [empty, Transducer.output_nil, List.append_nil, List.append_nil] at whole
    exact whole
  · obtain ⟨heard₁, replies₁, d₁, early, before, part⟩ := overheard.untilError
    refine ⟨_, probeLoop_eq Vector.length_toList replies, ?_, fun fine => ?_⟩
    · rw [before]
      exact (List.prefix_append _ _).trans (part.inTune.decoded ▸ early)
    · rw [beforeError_all fine]
      exact overheard.inTune

/-- One byte is heard, and one poll gets it. -/
lemma greeting_overheard : Overheard .fresh [0x41] [(.received [0x15] (by decide) : PollReply 255)]
    ⟨1, [], []⟩ := by
  have served : (Dongle.fresh.hear 0 0x41).serve (receiveRequest 255) 1
      = some ([0x15], ⟨1, [], []⟩) := by decide
  exact .hear (.poll served (by decide) (.done _))

/-- The monitor decodes the byte of the greeting. -/
theorem listeners_in_tune_greeting :
    ∃ run, rxMonitor ⟨.replicate 255 0, .replicate 255 0⟩ [.received [0x15] (by decide)]
        = some run ∧
      decodedBytes run = [0x41] := by
  obtain ⟨run, ran, tuned⟩ := (listeners_in_tune.1 _ _ _ greeting_overheard).1 _
  exact ⟨run, ran, (List.append_nil _).symm.trans tuned.decoded⟩

end Ks959.Exchange
