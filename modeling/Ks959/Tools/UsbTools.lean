import Ks959.Speed
import Ks959.Tools.Arguments
import Ks959.Tools.Libusb

/-!
# The receive tools as a whole (`src/tools/linux`)

`main` of `ks959_rx_monitor.c`, `ks959_libusb_probe.c` and `ks959_ep81_monitor.c`, with what they
read off their arguments and the configuration they send first. A loop that goes on until SIGINT is
given the number of its turns. The turns are those of the receive loops (`pollOnce`, `probePoll`,
`ep81Loop`), and `pollTurns_ensures` says of the loop with two buffers that it polls and decodes as
`pollLoop` does.

`InSession` is a dialogue that keeps to an open session; `sessionMain` opens one around it. `Asks`
is a dialogue whose control transfers do not depend on what is answered.
-/

namespace Ks959.Tools
open CMemory Dialogue Numerals

/-- The setup packet of a receive poll. -/
def rxSetup (wLength : UInt16) : SetupPacket :=
  ⟨reqtypeInClassIface, reqRecv, rxWvalue, rxWindex, wLength⟩

/-- The setup packet of an `OUT` request. -/
def outSetup (wValue wIndex wLength : UInt16) : SetupPacket :=
  ⟨reqtypeOutClassIface, reqSend, wValue, wIndex, wLength⟩

/-- A payload that has been cleared and filled in. -/
def out8 (param0 : UInt32) (param1 : UInt8) : Out8Payload :=
  fillOut8Payload ⟨.replicate 4 0, 0, .replicate 3 0⟩ param0 param1

/-- `ks959_send_out8` of `ks959_rx_monitor.c`, `send_out8` of `ks959_rx_arm_scan.c`. -/
def sendOut8 (wValue : UInt16) (payload : Out8Payload) : Tool Int :=
  usb (.controlOut (outSetup wValue 0x0000 8) (some payload.image))

/-- The number in an argument, or what stands without it. -/
def intArgument (argv : List CString) (k : Nat) (absent : Int32) : Int32 :=
  match argv[k]? with
  | none => absent
  | some s => atoi s.chars

/-- The argument `polls` of the probes that fall back on a number of their own. -/
def pollsArgument (argv : List CString) (fallback : Int32) : Nat :=
  let polls := intArgument argv 0 fallback
  if polls ≤ 0 then fallback.toInt.toNat else polls.toInt.toNat

/-- The turns of a receive loop; each decodes what its poll has received. -/
def pollTurns : (turns : Nat) → UInt8 → Mem RxBuffer UInt8 → Tool (Option PollRun)
  | 0, state, _ => halt (some ⟨state, []⟩)
  | turns + 1, state, mem => do
    let reply : PollReply 255 ← usb (.controlIn (rxSetup 255))
    match pollOnce state mem reply with
    | none => return none
    | some turn =>
      let rest ← pollTurns turns turn.poll.state turn.mem
      return rest.map fun run => { run with polls := turn.poll :: run.polls }

/-- What the receive tools do with the session they open, and give back at the end. -/
def sessionMain {R : Type} (body : Tool R) : Tool (Int × Option R) := do
  let opened ← openKs959
  if opened.ret ≠ 0 then
    return (1, none)
  else
    let r ← body
    closeKs959 opened.ctx opened.handle
    return (0, some r)

/-- The dialogue keeps to an open session. -/
def InSession {R : Type} (p : Tool R) : Prop :=
  ∀ b, Follows usbStep p ⟨.claimed, b⟩ fun _ s => s = ⟨.claimed, b⟩

namespace InSession
variable {R S : Type}

/-- A return stays inside the session. -/
lemma halt (r : R) : InSession (Dialogue.halt r : Tool R) := fun _ => follows_halt rfl

/-- Two dialogues in a row stay inside the session. -/
lemma bind {p : Tool R} {f : R → Tool S} (first : InSession p) (second : ∀ r, InSession (f r)) :
    InSession (p >>= f) := by
  intro b
  refine (first b).bind fun r s same => ?_
  rw [same]
  exact second r b

/-- A request that has the bytes it announces stays inside the session. -/
lemma controlOut {setup : SetupPacket} {data : Option (List UInt8)} (fits : OutFits setup data) :
    InSession (usb (.controlOut setup data)) :=
  fun _ => follows_call (k := Dialogue.halt) (fun _ => .claimed) (fun _ _ => if_pos fits)
    fun _ => follows_halt rfl

/-- A request with room for the bytes it asks for stays inside the session. -/
lemma controlIn {setup : SetupPacket} (fits : InFits setup) :
    InSession (usb (.controlIn setup)) :=
  fun _ => follows_call (k := Dialogue.halt) (fun _ => .claimed) (fun _ _ => if_pos fits)
    fun _ => follows_halt rfl

/-- A read of an endpoint stays inside the session. -/
lemma interruptIn (endpoint : UInt8) : InSession (usb (.interruptIn endpoint)) :=
  fun _ => follows_call (k := Dialogue.halt) (fun _ => .claimed) (fun _ _ => rfl)
    fun _ => follows_halt rfl

/-- A look at `g_stop` stays inside the session. -/
lemma signal : InSession (usb .signal) :=
  fun _ => follows_usb (k := Dialogue.halt) fun _ => ⟨_, rfl, follows_halt rfl⟩

/-- A branch stays inside the session when both sides do. -/
lemma ite {c : Prop} [Decidable c] {p q : Tool R} (yes : InSession p) (no : InSession q) :
    InSession (if c then p else q) := by
  split
  · exact yes
  · exact no

/-- A loop stays inside the session when each turn does. -/
lemma forEach {σ α : Type} {f : σ → α → Tool σ} {xs : List α}
    (turn : ∀ acc, ∀ x ∈ xs, InSession (f acc x)) (acc : σ) :
    InSession (Dialogue.forEach f acc xs) := by
  intro b
  refine Follows.forEach (fun (_ : σ) (s : Usb) => s = ⟨.claimed, b⟩) rfl
    fun acc s x mem same => ?_
  rw [same]
  exact turn acc x mem b

end InSession

/-- With a dongle that takes everything a session is opened. -/
lemma served_session {R : Type} (body : Tool R) : (served (sessionMain body)).2.1 = 0 := by
  obtain ⟨past, opened⟩ : ∃ past, (served (sessionMain body)).2 = (against (fun _ => UsbCall.served)
    past (body.bind fun r => (closeKs959 true true).bind fun _ => halt ((0 : Int), some r))).2 :=
    ⟨_, rfl⟩
  rw [opened, against_bind_snd]
  rfl

/-- The requests of two runs in a row are those of the first, then of the second. -/
lemma requests_append {t t' : List UsbExchange} : requests (t ++ t') = requests t ++ requests t' :=
  List.filterMap_append

/-- Whatever is answered, the dialogue asks for these control transfers. -/
def Asks {R : Type} (p : Tool R) (rs : List Request) : Prop := Ensures p fun t _ => requests t = rs

namespace Asks
variable {R S σ α : Type} {rs rs' : List Request}

/-- A return asks for nothing. -/
lemma halt (r : R) : Asks (Dialogue.halt r) [] := ensures_halt rfl

/-- Two dialogues in a row make the requests of both. -/
lemma bind {p : Tool R} {f : R → Tool S} (first : Asks p rs) (second : ∀ r, Asks (f r) rs') :
    Asks (p >>= f) (rs ++ rs') := by
  refine Ensures.bind first fun before r asked => (second r).mono fun after _ asked' => ?_
  rw [requests_append, asked, asked']

/-- An `OUT` request is the one that is asked for. -/
lemma out (setup : SetupPacket) (data : Option (List UInt8)) :
    Asks (usb (.controlOut setup data)) [.out setup data] :=
  ensures_usb (k := Dialogue.halt) fun _ => ensures_halt rfl

/-- A poll is the one request that is asked for. -/
lemma poll (setup : SetupPacket) : Asks (usb (.controlIn setup)) [.poll setup] :=
  ensures_usb (k := Dialogue.halt) fun _ => ensures_halt rfl

/-- A loop asks for what its turns ask for, turn by turn. -/
lemma forEach {f : σ → α → Tool σ} {asked : α → List Request} {xs : List α}
    (turn : ∀ acc, ∀ x ∈ xs, Asks (f acc x) (asked x)) (acc : σ) :
    Asks (Dialogue.forEach f acc xs) (xs.flatMap asked) := by
  induction xs generalizing acc with
  | nil => exact halt acc
  | cons x xs ih =>
    refine bind (turn acc x List.mem_cons_self) fun acc => ih (fun acc y mem => ?_) acc
    exact turn acc y (List.mem_cons_of_mem x mem)

end Asks

/-- A silent dialogue makes no request. -/
lemma Silent.asks {R : Type} {p : Tool R} (silent : Silent p) : Asks p [] :=
  fun t r run => List.filterMap_eq_nil_iff.mpr fun x mem => (silent t r run x mem).1

/-- Around what a tool does in a session nothing is sent, nor polled. -/
lemma sessionMain_ensures {R : Type} {body : Tool R} {post : List UsbExchange → R → Prop}
    (ensures : Ensures body post) :
    Ensures (sessionMain body) fun t r => (r = (1, none) ∧ requests t = []) ∨
      ∃ t₁ t₂ t₃ b, t = t₁ ++ (t₂ ++ t₃) ∧ requests t₁ = [] ∧ requests t₃ = [] ∧ post t₂ b ∧
        r = (0, some b) := by
  refine Ensures.bind openKs959_silent.asks fun t₁ opened before => ?_
  by_cases error : opened.ret ≠ 0
  · rw [if_pos error]
    exact ensures_halt (.inl ⟨rfl, by rw [List.append_nil]; exact before⟩)
  · rw [if_neg error]
    refine ensures.bind fun t₂ b done => ?_
    refine Ensures.bind (closeKs959_silent _ _).asks fun t₃ _ after => ensures_halt (.inr ?_)
    exact ⟨t₁, t₂, t₃, b, by rw [List.append_nil], before, after, done, rfl⟩

end Ks959.Tools
