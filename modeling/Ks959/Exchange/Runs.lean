import Ks959.Device.Bookkeeping
import Ks959.Exchange.Dongle
import Ks959.Exchange.Host
import Ks959.Lib.Machine

/-!
# Runs of the exchange

The host of `Host` and the dongle of `Dongle` with the link between them. A run is any sequence of
actions: bytes come in over the air, and the host polls, sends fragments and sets the speed, in any
order. A transfer succeeds or fails as the link decides; one that fails may have been carried out
all the same, a failed poll may lose bytes.

`Kept` is what holds after every run on a device that has been opened: each message asked for is
received at most once and in its order, whatever was acknowledged has been received, what goes over
the wire are the documented transfers and no others, and the error slot holds the latest failure.
As long as no bytes are lost, the host has decoded what the dongle has heard up to the bytes that
it has not asked for yet (`InStep`), and enough polls give it the rest (`drained`).
-/

namespace Ks959.Exchange
open Device Rx

/-- What becomes of a transfer to the dongle. -/
inductive Passage where
  | done
  | failed (error : UInt32) (arrived : Bool)

def Passage.arrived : Passage → Bool
  | .done => true
  | .failed _ arrived => arrived

def Passage.answer (p : Passage) : Winusb := fun t =>
  match p with
  | .done => .done t.bufferLength
  | .failed error _ => .failed error

/-- What becomes of a poll: the bytes that the dongle hands out are transferred, or lost. -/
inductive Handout where
  | done (n : UInt32)
  | failed (error : UInt32) (lost : Nat)

def Handout.taken : Handout → Nat
  | .done n => n.toNat
  | .failed _ lost => lost

def Handout.lost : Handout → Nat
  | .done _ => 0
  | .failed _ lost => lost

def Handout.answer (h : Handout) : Winusb := fun _ =>
  match h with
  | .done n => .done n
  | .failed error _ => .failed error

inductive Action where
  | hear (garbage byte : UInt8)
  | poll (handout : Handout)
  | send (fragment : Fragment) (passage : Passage)
  | configure (baudrate : UInt32) (flags : UInt8) (passage : Passage)

namespace Action

/-- What comes in over the air. -/
def heard : Action → List UInt8
  | hear _ byte => [byte]
  | _ => []

/-- What the dongle is asked for. -/
def asks : Action → List Message
  | send fragment _ => [.fragment fragment.1]
  | configure baudrate flags _ => [.speed baudrate flags]
  | _ => []

/-- What goes over the wire. -/
def transfers (winusb : Nat) : Action → List Transfer
  | hear _ _ => []
  | poll _ => [pollTransfer winusb]
  | send fragment _ => if Sendable fragment.1 then [fragmentTransfer winusb fragment.1] else []
  | configure baudrate flags _ => [speedTransfer winusb baudrate flags]

/-- How many received bytes are lost. -/
def lost : Action → Nat
  | poll handout => handout.lost
  | _ => 0

end Action

/-- The two parties: the host's device, decoder state and decoded bytes, the messages it has asked
    for with the status it was given, the transfers it has issued, and the dongle. -/
structure Parties where
  dev : Option Ks959Device
  rx : RxDecodeState
  decoded : List UInt8
  asked : List (Message × Status)
  issued : List (Transfer × TransferOutcome)
  dongle : Dongle

namespace Parties

/-- A poll has returned, and its buffer begins with `bytes`. -/
def receive (e : Parties) (r : CtrlReturn (List UInt8)) (bytes : List UInt8) (dongle : Dongle) :
    Parties :=
  let e := { e with dev := r.dev, issued := e.issued ++ r.issued, dongle := dongle }
  match r.status, r.bytesTransferred with
  | .ok, some n =>
    match (RxCall.ofBuffers (bytes.take n.toNat) (List.replicate 2048 0)).succeeded e.rx with
    | some (rx, out) => { e with rx := rx, decoded := e.decoded ++ out }
    | none => e
  | _, _ => e

/-- The calls for a message have returned, and what arrives of their transfers is accepted. -/
def deliver (e : Parties) (m : Message) (p : Passage) (r : CtrlReturn (List UInt8)) : Parties :=
  { e with
    dev := r.dev
    asked := e.asked ++ [(m, r.status)]
    issued := e.issued ++ r.issued
    dongle :=
      if p.arrived then
        r.issued.foldl (fun d t => d.accept t.1.packet (t.1.buffer.getD [])) e.dongle
      else
        e.dongle }

/-- The messages that a transfer was tried for. -/
def attempted (e : Parties) : List Message :=
  (e.asked.filter fun x => x.2 != .errBufferTooSmall).map Prod.fst

def acknowledged (e : Parties) : List Message :=
  (e.asked.filter fun x => x.2 == .ok).map Prod.fst

/-- The bytes that the dongle holds, as the host will decode them. -/
def pending (e : Parties) : List UInt8 := rxDecoder.output e.rx.variableXormask e.dongle.line

end Parties

def step (e : Parties) : Action → Option Parties
  | .hear garbage byte => some { e with dongle := e.dongle.hear garbage byte }
  | .poll handout =>
    let r := poll e.dev handout.answer
    match r.issued with
    | [] => some { e with dev := r.dev }
    | (t, _) :: _ => do
      let (bytes, dongle) ← e.dongle.serve t.packet handout.taken
      some (e.receive r bytes dongle)
  | .send fragment passage => do
    let r ← sendFragment e.dev fragment passage.answer
    some (e.deliver (.fragment fragment.1) passage r)
  | .configure baudrate flags passage => do
    let r ← configure e.dev baudrate flags passage.answer
    some (e.deliver (.speed baudrate flags) passage r)

/-- A device that has just been opened, and a dongle that has just been attached. -/
def Parties.fresh (dev : Ks959Device) (rx : RxDecodeState) : Parties :=
  ⟨some dev, rx, [], [], [], .fresh⟩

/-- Open a device, initialize the decoder, go through a run of the exchange. -/
def session (env : Env) (uninitialized : RxDecodeState) (actions : List Action) :
    Option Parties := do
  let r ← ks959Open env (some none)
  let dev ← r.outDev.join
  let rx ← protoRxStateInit (some uninitialized)
  Machine.run step (.fresh dev rx) actions

/-- How a message is settled by the status that is returned for it. -/
inductive Settled : Message → Status → Prop where
  | acknowledged {m : Message} (sendable : ∀ bytes, m = .fragment bytes → Sendable bytes) :
      Settled m .ok
  | failed {m : Message} (sendable : ∀ bytes, m = .fragment bytes → Sendable bytes) :
      Settled m .errIo
  | refused {bytes : List UInt8} (unsendable : ¬ Sendable bytes) :
      Settled (.fragment bytes) .errBufferTooSmall

/-- What holds after a run on the device `d`. -/
structure Kept (d : Ks959Device) (winusb : Nat) (actions : List Action) (e : Parties) : Prop where
  device : e.dev = some { d with lastOsError := latestError d.lastOsError e.issued }
  wire : e.issued.map Prod.fst = actions.flatMap (Action.transfers winusb)
  asked : e.asked.map Prod.fst = actions.flatMap Action.asks
  settled : ∀ x ∈ e.asked, Settled x.1 x.2
  acknowledged : e.acknowledged.Sublist e.dongle.received
  received : e.dongle.received.Sublist e.attempted
  counter : e.dongle.counter.toNat
    = (e.rx.variableXormask.toNat + e.dongle.line.length + (actions.map Action.lost).sum) % 256

/-- The host's decoder is in step with the dongle. -/
structure InStep (actions : List Action) (e : Parties) : Prop where
  heard : e.decoded ++ e.pending = actions.flatMap Action.heard
  counter : rxDecoder.final e.rx.variableXormask e.dongle.line = e.dongle.counter

/-- What a step can do on the device `d`. -/
inductive Stepped (d : Ks959Device) (winusb : Nat) (e : Parties) : Action → Parties → Prop where
  | heard (garbage byte : UInt8) :
      Stepped d winusb e (.hear garbage byte) { e with dongle := e.dongle.hear garbage byte }
  | polled (n : UInt32) {bytes : List UInt8} {dongle : Dongle}
      (served : e.dongle.serve (pollTransfer winusb).packet n.toNat = some (bytes, dongle)) :
      Stepped d winusb e (.poll (.done n))
        { e with
          rx := ⟨rxDecoder.final e.rx.variableXormask bytes⟩
          decoded := e.decoded ++ rxDecoder.output e.rx.variableXormask bytes
          issued := e.issued ++ [(pollTransfer winusb, .done n)]
          dongle := dongle }
  | pollFailed (error : UInt32) {lost : Nat} {bytes : List UInt8} {dongle : Dongle}
      (served : e.dongle.serve (pollTransfer winusb).packet lost = some (bytes, dongle)) :
      Stepped d winusb e (.poll (.failed error lost))
        { e with
          dev := some { d with lastOsError := error }
          issued := e.issued ++ [(pollTransfer winusb, .failed error)]
          dongle := dongle }
  | carried {a : Action} {m : Message} {t : Transfer} (p : Passage) (asks : a.asks = [m])
      (transfers : a.transfers winusb = [t]) (heard : a.heard = []) (lost : a.lost = 0)
      (sendable : ∀ bytes, m = .fragment bytes → Sendable bytes)
      (accepts : ∀ dongle : Dongle, dongle.accept t.packet (t.buffer.getD [])
        = { dongle with received := dongle.received ++ [m] }) :
      Stepped d winusb e a (e.deliver m p (handedOn d t p.answer))
  | refused {f : Fragment} (p : Passage) (rejected : ¬ Sendable f.1) :
      Stepped d winusb e (.send f p)
        { e with asked := e.asked ++ [(.fragment f.1, .errBufferTooSmall)] }

section
variable {d : Ks959Device} {winusb : Nat} {e e' : Parties} {a : Action} {actions : List Action}

/-- The whole of a chunk that the request allows is decoded. -/
lemma receive_done {n : UInt32} {bytes : List UInt8} {dongle : Dongle} (dev : e.dev = some d)
    (len : bytes.length = n.toNat) (room : n.toNat ≤ 2048) :
    e.receive ⟨.ok, some d, some n.toUInt64, [(pollTransfer winusb, .done n)]⟩ bytes dongle
      = { e with
          rx := ⟨rxDecoder.final e.rx.variableXormask bytes⟩
          decoded := e.decoded ++ rxDecoder.output e.rx.variableXormask bytes
          issued := e.issued ++ [(pollTransfer winusb, .done n)]
          dongle := dongle } := by
  have whole : bytes.take n.toUInt64.toNat = bytes := by
    rw [UInt32.toNat_toUInt64, ← len, List.take_length]
  have fits : decodedLength e.rx.variableXormask (RxCall.ofBuffers bytes
      (List.replicate 2048 0)).inLen ≤ (RxCall.ofBuffers bytes
        (List.replicate 2048 0)).outBufSize := by
    refine Nat.le_trans (decodedLength_le _ _) (Nat.le_trans (len.trans_le room) ?_)
    exact Nat.le_of_eq List.length_replicate.symm
  have chunk : (RxCall.ofBuffers bytes (List.replicate 2048 0)).chunk = bytes := List.take_length
  have decoded := RxCall.succeeded_of_fits fits
  rw [RxCall.decoded, chunk] at decoded
  simp only [Parties.receive, whole, decoded, dev]

/-- A call that issues nothing only leaves its status. -/
lemma deliver_nothing {m : Message} {p : Passage} {status : Status} (dev : e.dev = some d) :
    e.deliver m p ⟨status, some d, some 0, []⟩ = { e with asked := e.asked ++ [(m, status)] } := by
  have same : (if p.arrived then e.dongle else e.dongle) = e.dongle := ite_self _
  rw [Parties.deliver, List.append_nil, List.foldl_nil, same, dev]

/-- A fragment that can be sent is delivered. -/
lemma step_send {f : Fragment} {p : Passage} (dev : e.dev = some d)
    (bound : d.winusbHandle = some winusb) (sendable : Sendable f.1) :
    step e (.send f p) = some
      (e.deliver (.fragment f.1) p (handedOn d (fragmentTransfer winusb f.1) p.answer)) := by
  rw [step, dev, sendFragment_accepted bound sendable]
  rfl

/-- A speed change is delivered. -/
lemma step_configure {baudrate : UInt32} {flags : UInt8} {p : Passage} (dev : e.dev = some d)
    (bound : d.winusbHandle = some winusb) :
    step e (.configure baudrate flags p) = some (e.deliver (.speed baudrate flags) p
      (handedOn d (speedTransfer winusb baudrate flags) p.answer)) := by
  rw [step, dev, configure_eq bound]
  rfl

/-- Everything a step can do. -/
lemma step_inv (dev : e.dev = some d) (bound : d.winusbHandle = some winusb)
    (st : step e a = some e') : Stepped d winusb e a e' := by
  cases a with
  | hear garbage byte =>
    cases st
    exact .heard garbage byte
  | poll handout =>
    rw [step, dev, poll_eq bound] at st
    cases handout with
    | done n =>
      obtain ⟨⟨bytes, dongle⟩, served, st⟩ := Option.bind_eq_some_iff.mp st
      obtain ⟨room, len, _⟩ := Dongle.serve_inv served
      cases st
      have received := @receive_done d winusb e n bytes dongle dev len room
      exact received ▸ .polled n served
    | failed error lost =>
      obtain ⟨⟨bytes, dongle⟩, served, st⟩ := Option.bind_eq_some_iff.mp st
      cases st
      exact .pollFailed error served
  | send f p =>
    by_cases sendable : Sendable f.1
    · rw [step_send dev bound sendable] at st
      cases st
      refine .carried p rfl (if_pos sendable) rfl rfl ?_ ?_
      · intro bytes same
        cases same
        exact sendable
      · intro dongle
        apply Dongle.accept_fragment
        rw [UInt16.toNat_ofNat']
        exact Nat.mod_eq_of_lt (Nat.lt_of_le_of_lt sendable.2 (by decide))
    · rw [step, dev, sendFragment_rejected sendable] at st
      cases st
      exact deliver_nothing (m := .fragment f.1) (p := p) dev ▸ .refused p sendable
  | configure baudrate flags p =>
    rw [step_configure dev bound] at st
    cases st
    refine .carried p rfl rfl rfl rfl ?_ ?_
    · intro bytes same
      cases same
    · intro dongle
      exact Dongle.accept_speed baudrate flags

/-- What a transfer to the dongle that is handed on leaves of the parties. -/
lemma deliver_handedOn {m : Message} {t : Transfer} (p : Passage)
    (accepts : ∀ dongle : Dongle, dongle.accept t.packet (t.buffer.getD [])
      = { dongle with received := dongle.received ++ [m] }) :
    (e.deliver m p (handedOn d t p.answer)).dongle
        = { e.dongle with
            received := e.dongle.received ++ if p.arrived then [m] else [] } := by
  rw [Parties.deliver, handedOn_issued, List.foldl_cons, List.foldl_nil, accepts]
  cases p.arrived with
  | true => rfl
  | false => exact congrArg (Dongle.mk _ _) (List.append_nil _).symm

/-- A message that is delivered has been attempted. -/
lemma deliver_attempted {m : Message} {t : Transfer} (p : Passage) :
    (e.deliver m p (handedOn d t p.answer)).attempted = e.attempted ++ [m] := by
  rw [Parties.attempted, Parties.deliver, List.filter_append, List.map_append]
  obtain ok | io := @handedOn_status d p.answer t
  · rw [ok]
    rfl
  · rw [io]
    rfl

/-- What is acknowledged has arrived. -/
lemma deliver_acknowledged {m : Message} {t : Transfer} (p : Passage) :
    ∃ acked, (e.deliver m p (handedOn d t p.answer)).acknowledged = e.acknowledged ++ acked ∧
      acked.Sublist (if p.arrived then [m] else []) := by
  cases p with
  | done =>
    refine ⟨[m], ?_, .refl _⟩
    rw [Parties.acknowledged, Parties.deliver, List.filter_append, List.map_append]
    rfl
  | failed error arrived =>
    refine ⟨[], ?_, List.nil_sublist _⟩
    rw [Parties.acknowledged, Parties.deliver, List.filter_append, List.map_append]
    rfl

/-- One action more adds what is told of it. -/
lemma flatMap_concat {β : Type} (f : Action → List β) :
    (actions ++ [a]).flatMap f = actions.flatMap f ++ f a := by
  rw [List.flatMap_append, List.flatMap_singleton]

/-- An action that adds nothing. -/
lemma flatMap_silent {β : Type} {f : Action → List β} (silent : f a = []) :
    (actions ++ [a]).flatMap f = actions.flatMap f := by
  rw [flatMap_concat, silent, List.append_nil]

/-- One action more adds the bytes that it loses. -/
lemma lost_concat :
    ((actions ++ [a]).map Action.lost).sum = (actions.map Action.lost).sum + a.lost := by
  rw [List.map_append, List.sum_append, List.map_singleton, List.sum_singleton]

/-- A step keeps the books. -/
lemma kept_step (bound : d.winusbHandle = some winusb) (kept : Kept d winusb actions e)
    (st : step e a = some e') : Kept d winusb (actions ++ [a]) e' := by
  obtain ⟨device, wire, asked, settled, acknowledged, received, counter⟩ := kept
  cases step_inv device bound st with
  | heard garbage byte =>
    constructor
    · exact device
    · exact wire.trans (flatMap_silent rfl).symm
    · exact asked.trans (flatMap_silent rfl).symm
    · exact settled
    · rw [Dongle.hear_received]
      exact acknowledged
    · rw [Dongle.hear_received]
      exact received
    · rw [lost_concat, Nat.add_right_comm]
      apply Dongle.hear_counter
      rw [counter, Nat.add_right_comm]
      rfl
  | polled n served =>
    obtain ⟨_, _, line, same, unmoved⟩ := Dongle.serve_inv served
    constructor
    · rw [latestError_append]
      exact device
    · rw [flatMap_concat, ← wire, List.map_append]
      rfl
    · exact asked.trans (flatMap_silent rfl).symm
    · exact settled
    · rw [unmoved]
      exact acknowledged
    · rw [unmoved]
      exact received
    · rw [line, List.length_append] at counter
      have none : (Action.poll (.done n)).lost = 0 := rfl
      rw [lost_concat, same, counter, final_toNat, none]
      dsimp only
      omega
  | pollFailed error served =>
    obtain ⟨_, len, line, same, unmoved⟩ := Dongle.serve_inv served
    constructor
    · rw [latestError_append]
      rfl
    · rw [flatMap_concat, ← wire, List.map_append]
      rfl
    · exact asked.trans (flatMap_silent rfl).symm
    · exact settled
    · rw [unmoved]
      exact acknowledged
    · rw [unmoved]
      exact received
    · rw [line, List.length_append, len] at counter
      rw [lost_concat, same, counter]
      dsimp only [Action.lost, Handout.lost]
      congr 1
      omega
  | @carried _ m t p asks transfers heard lost sendable accepts =>
    obtain ⟨acked, now, arrived⟩ := @deliver_acknowledged
      { d with lastOsError := latestError d.lastOsError e.issued } e m t p
    have dongle := deliver_handedOn (e := e) (m := m)
      (d := { d with lastOsError := latestError d.lastOsError e.issued }) p accepts
    constructor
    · rw [Parties.deliver, handedOn_dev, handedOn_issued, latestError_append]
    · rw [flatMap_concat, ← wire, transfers, Parties.deliver, handedOn_issued]
      exact List.map_append
    · rw [flatMap_concat, ← asked, asks]
      exact List.map_append
    · intro x mem
      rcases List.mem_append.mp mem with old | new
      · exact settled x old
      · cases List.mem_singleton.mp new
        obtain ok | io := @handedOn_status _ p.answer t
        · exact ok ▸ .acknowledged sendable
        · exact io ▸ .failed sendable
    · rw [now, dongle]
      exact acknowledged.append arrived
    · rw [dongle, deliver_attempted]
      refine received.append ?_
      split
      · exact .refl _
      · exact List.nil_sublist _
    · rw [dongle, lost_concat, lost]
      exact counter
  | refused p rejected =>
    constructor
    · exact device
    · exact wire.trans (flatMap_silent (if_neg rejected)).symm
    · rw [flatMap_concat, ← asked]
      exact List.map_append
    · intro x mem
      rcases List.mem_append.mp mem with old | new
      · exact settled x old
      · cases List.mem_singleton.mp new
        exact .refused rejected
    · rw [Parties.acknowledged, List.filter_append, List.map_append]
      exact (List.append_nil _).symm ▸ acknowledged
    · rw [Parties.attempted, List.filter_append, List.map_append]
      exact (List.append_nil _).symm ▸ received
    · rw [lost_concat]
      exact counter

/-- Without losses a step keeps the decoder in step. -/
lemma inStep_step (bound : d.winusbHandle = some winusb) (dev : e.dev = some d)
    (inStep : InStep actions e) (kept : a.lost = 0) (st : step e a = some e') :
    InStep (actions ++ [a]) e' := by
  obtain ⟨heard, counter⟩ := inStep
  cases step_inv dev bound st with
  | heard garbage byte =>
    obtain ⟨decodes, stays⟩ := @Dongle.hear_decodes _ _ garbage byte counter
    refine ⟨?_, stays⟩
    rw [Parties.pending, decodes, ← List.append_assoc, flatMap_concat, ← heard]
    rfl
  | polled n served =>
    obtain ⟨_, _, line, same, _⟩ := Dongle.serve_inv served
    rw [Parties.pending, line, Transducer.output_append, ← List.append_assoc] at heard
    rw [line, Transducer.final_append] at counter
    exact ⟨heard.trans (flatMap_silent rfl).symm, counter.trans same.symm⟩
  | pollFailed error served =>
    obtain ⟨_, len, line, same, _⟩ := Dongle.serve_inv served
    have none := List.length_eq_zero_iff.mp (len.trans kept)
    rw [none, List.nil_append] at line
    rw [Parties.pending, line] at heard
    rw [line] at counter
    exact ⟨heard.trans (flatMap_silent rfl).symm, counter.trans same.symm⟩
  | @carried _ m t p asks transfers silent lost sendable accepts =>
    have dongle := deliver_handedOn (d := d) (e := e) (m := m) p accepts
    constructor
    · rw [Parties.pending, dongle]
      exact heard.trans (flatMap_silent silent).symm
    · rw [dongle]
      exact counter
  | refused p rejected =>
    exact ⟨heard.trans (flatMap_silent rfl).symm, counter⟩

/-- What holds after a run, the decoder's part of it as long as nothing is lost. -/
lemma run_kept {e₀ : Parties} (bound : d.winusbHandle = some winusb) (start : Kept d winusb [] e₀)
    (inStep : InStep [] e₀) (ran : Machine.run step e₀ actions = some e) :
    Kept d winusb actions e ∧ ((∀ a ∈ actions, a.lost = 0) → InStep actions e) := by
  refine Machine.run_invariant
    (fun actions e => Kept d winusb actions e ∧ ((∀ a ∈ actions, a.lost = 0) → InStep actions e))
    ⟨start, fun _ => inStep⟩ ?_ ran
  rintro actions e a e' ⟨kept, decoding⟩ st
  refine ⟨kept_step bound kept st, fun lossless => ?_⟩
  have before := decoding fun b mem => lossless b (List.mem_append_left _ mem)
  have now := lossless a (List.mem_append_right _ (List.mem_singleton_self a))
  exact inStep_step (d := { d with lastOsError := latestError d.lastOsError e.issued }) bound
    kept.device before now st

/-- A poll for bytes that are there succeeds. -/
lemma step_poll {n : UInt32} (bound : d.winusbHandle = some winusb) (dev : e.dev = some d)
    (there : n.toNat ≤ e.dongle.line.length) (room : n.toNat ≤ 2048) :
    ∃ e', step e (.poll (.done n)) = some e' ∧ e'.dev = some d ∧
      e'.dongle = { e.dongle with line := e.dongle.line.drop n.toNat } := by
  have served : e.dongle.serve (pollTransfer winusb).packet n.toNat = some
      (e.dongle.line.take n.toNat, { e.dongle with line := e.dongle.line.drop n.toNat }) :=
    if_pos ⟨there, room⟩
  have received := @receive_done d winusb e n _
    { e.dongle with line := e.dongle.line.drop n.toNat } dev (List.length_take_of_le there) room
  have st : step e (.poll (.done n)) = some (e.receive
      ⟨.ok, some d, some n.toUInt64, [(pollTransfer winusb, .done n)]⟩
      (e.dongle.line.take n.toNat) { e.dongle with line := e.dongle.line.drop n.toNat }) := by
    rw [step, dev, poll_eq bound]
    change (e.dongle.serve (pollTransfer winusb).packet n.toNat).bind _ = _
    rw [served]
    rfl
  exact ⟨_, st.trans (congrArg some received), dev, rfl⟩

/-- Poll `k` times for all that is there, `n` bytes to begin with. -/
def drain : (k n : Nat) → List Action
  | 0, _ => []
  | k + 1, n => .poll (.done (UInt32.ofNat (min 2048 n))) :: drain k (n - 2048)

/-- Nothing is heard while the line is drained. -/
lemma drain_silent (k n : Nat) : (drain k n).flatMap Action.heard = [] := by
  induction k generalizing n with
  | zero => rfl
  | succ k ih => exact ih (n - 2048)

/-- Nothing is lost while the line is drained. -/
lemma drain_lossless (k n : Nat) : ∀ a ∈ drain k n, a.lost = 0 := by
  induction k generalizing n with
  | zero => exact List.forall_mem_nil _
  | succ k ih => exact List.forall_mem_cons.mpr ⟨rfl, ih (n - 2048)⟩

/-- Enough polls empty the dongle. -/
lemma drained {k : Nat} (bound : d.winusbHandle = some winusb) (dev : e.dev = some d)
    (enough : e.dongle.line.length ≤ 2048 * k) :
    ∃ e', Machine.run step e (drain k e.dongle.line.length) = some e' ∧ e'.dongle.line = [] ∧
      e'.dongle.received = e.dongle.received := by
  induction k generalizing e with
  | zero => exact ⟨e, rfl, List.length_eq_zero_iff.mp (Nat.le_zero.mp enough), rfl⟩
  | succ k ih =>
    have size : (UInt32.ofNat (min 2048 e.dongle.line.length)).toNat
        = min 2048 e.dongle.line.length := by
      rw [UInt32.toNat_ofNat']
      exact Nat.mod_eq_of_lt (Nat.lt_of_le_of_lt (Nat.min_le_left _ _) (by decide))
    obtain ⟨e₁, st, dev₁, dongle⟩ := step_poll bound dev (size.trans_le (Nat.min_le_right _ _))
      (size.trans_le (Nat.min_le_left _ _))
    have left : e₁.dongle.line.length = e.dongle.line.length - 2048 := by
      rw [dongle, size, List.length_drop]
      omega
    obtain ⟨e₂, rest, empty, received⟩ := ih dev₁ (by omega)
    refine ⟨e₂, ?_, empty, received.trans (by rw [dongle])⟩
    rw [drain, Machine.run, st, ← left]
    exact rest

end

/-- Every run of the exchange on a device that has been opened keeps its books, and when no poll
    loses bytes, the host has decoded what has come in up to what the dongle still holds, and gets
    the rest, and nothing else, with as many polls as there are packets of it. -/
theorem exchange_kept {env : Env} {uninitialized : RxDecodeState} {actions : List Action}
    {e : Parties} (ran : session env uninitialized actions = some e) :
    ∃ r d winusb, ks959Open env (some none) = some r ∧ r.status = .ok ∧
      r.outDev = some (some d) ∧ d.winusbHandle = some winusb ∧ Kept d winusb actions e ∧
      ((∀ a ∈ actions, a.lost = 0) →
        e.decoded ++ e.pending = actions.flatMap Action.heard ∧
        ∀ k, e.dongle.line.length ≤ 2048 * k →
          ∃ e', Machine.run step e (drain k e.dongle.line.length) = some e' ∧
            e'.decoded = actions.flatMap Action.heard ∧
            e'.dongle.received = e.dongle.received) := by
  obtain ⟨r, opened, ran⟩ := Option.bind_eq_some_iff.mp ran
  obtain ⟨d, out, ran⟩ := Option.bind_eq_some_iff.mp ran
  obtain ⟨rx, init, ran⟩ := Option.bind_eq_some_iff.mp ran
  cases init
  obtain ⟨r', ψ, run, _, ended⟩ := ks959Open_booked env none
  rw [opened] at run
  cases run
  cases ended with
  | failed error null idle =>
    rw [null] at out
    cases out
  | opened file winusb _ _ ok out' _ =>
    rw [out'] at out
    cases out
    have start : Kept ⟨some file, some winusb, usbVid, usbPid, 0⟩ winusb []
        (.fresh ⟨some file, some winusb, usbVid, usbPid, 0⟩ ⟨0⟩) :=
      ⟨rfl, rfl, rfl, List.forall_mem_nil _, .refl _, .refl _, rfl⟩
    obtain ⟨kept, decoding⟩ := run_kept rfl start ⟨rfl, rfl⟩ ran
    refine ⟨r, _, winusb, opened, ok, out', rfl, kept, fun lossless => ?_⟩
    have inStep := decoding lossless
    refine ⟨inStep.heard, fun k enough => ?_⟩
    obtain ⟨e', more, empty, received⟩ := @drained _ winusb _ k rfl kept.device enough
    refine ⟨e', more, ?_, received⟩
    have whole : Machine.run step (.fresh ⟨some file, some winusb, usbVid, usbPid, 0⟩ ⟨0⟩)
        (actions ++ drain k e.dongle.line.length) = some e' := by
      rw [Machine.run_append, ran]
      exact more
    obtain ⟨_, decoding'⟩ := run_kept rfl start ⟨rfl, rfl⟩ whole
    obtain ⟨heard, _⟩ := decoding' fun a mem =>
      (List.mem_append.mp mem).elim (lossless a) (drain_lossless _ _ a)
    rw [Parties.pending, empty, List.flatMap_append, drain_silent, List.append_nil] at heard
    rw [← heard]
    exact (List.append_nil _).symm

/-- A fragment that greets the other side. -/
def hello : Fragment := ⟨[0xC0, 0xC1], by decide⟩

/-- A byte comes in, a fragment is sent, the speed is set but the transfer is reported to fail. -/
def greeting : List Action :=
  [.hear 0 0x41, .send hello .done, .configure 9600 3 (.failed 121 true)]

/-- The device that the greeting goes through. -/
def greetingDevice : Ks959Device := ⟨some 1, some 2, usbVid, usbPid, 0⟩

/-- The byte has come in. -/
def greetingHeard : Parties :=
  { Parties.fresh greetingDevice ⟨0⟩ with dongle := Dongle.fresh.hear 0 0x41 }

/-- The fragment has been sent. -/
def greetingSent : Parties :=
  greetingHeard.deliver (.fragment hello.1) .done
    (handedOn greetingDevice (fragmentTransfer 2 hello.1) Passage.done.answer)

/-- The speed has been set. -/
def greetingConfigured : Parties :=
  greetingSent.deliver (.speed 9600 3) (.failed 121 true)
    (handedOn greetingDevice (speedTransfer 2 9600 3) (Passage.failed 121 true).answer)

/-- The greeting goes through these states. -/
lemma greeting_runs :
    Machine.run step (.fresh greetingDevice ⟨0⟩) greeting = some greetingConfigured ∧
      greetingConfigured.dongle.line = [0x15] := by
  have hears : step (.fresh greetingDevice ⟨0⟩) (.hear 0 0x41) = some greetingHeard := rfl
  have sends : step greetingHeard (.send hello .done) = some greetingSent :=
    step_send rfl rfl (by decide)
  have configures : step greetingSent (.configure 9600 3 (.failed 121 true))
      = some greetingConfigured := step_configure rfl rfl
  refine ⟨?_, by decide⟩
  rw [greeting, Machine.run_cons hears, Machine.run_cons sends, Machine.run_cons configures]
  rfl

/-- A poll after the greeting brings the byte that has come in. -/
theorem exchange_kept_greeting : ∃ e e', session attached ⟨7⟩ greeting = some e ∧
    Machine.run step e (drain 1 1) = some e' ∧ e'.decoded = [0x41] := by
  obtain ⟨calls, opened⟩ := attached_opens
  obtain ⟨ran, line⟩ := greeting_runs
  have whole : session attached ⟨7⟩ greeting = some greetingConfigured :=
    Option.bind_eq_some_iff.mpr ⟨_, opened, Option.bind_eq_some_iff.mpr ⟨_, rfl,
      Option.bind_eq_some_iff.mpr ⟨⟨0⟩, rfl, ran⟩⟩⟩
  obtain ⟨_, _, _, _, _, _, _, _, decoding⟩ := exchange_kept whole
  obtain ⟨_, more⟩ := decoding (by simp [greeting, Action.lost])
  obtain ⟨e', ran', decoded, _⟩ := more 1 (by rw [line]; decide)
  rw [line] at ran'
  exact ⟨_, e', whole, ran', decoded⟩

end Ks959.Exchange
