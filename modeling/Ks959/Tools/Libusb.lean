import Ks959.Lib.Dialogue
import Ks959.Tools.Ep81Monitor
import Ks959.Tools.RxLoops

/-!
# The tools over libusb (`src/tools/linux`, `ks959_tx_probe.c`)

The userspace tools are dialogues with libusb (`UsbCall`). They all open the dongle by the same
steps and give it back by the same steps; `openKs959` and `closeKs959` are the functions that five
of them carry a copy of.

`usbStep` is the life of a libusb session: context, device, claimed interface, each inside the one
before, transfers only while the interface is claimed and only with as many bytes as they announce.
A tool that it can follow from the start to the start leaks nothing and uses nothing too late.
-/

namespace Ks959.Tools
open Dialogue

def libusbErrorNoDevice : Int := -4

/-- A call of the tools, or a look at whether SIGINT has come. -/
inductive UsbCall where
  | init
  | openDevice (vid pid : UInt16)
  | kernelDriverActive
  | detachKernelDriver
  | claimInterface
  | controlOut (setup : SetupPacket) (data : Option (List UInt8))
  | controlIn (setup : SetupPacket)
  | interruptIn (endpoint : UInt8)
  | releaseInterface
  | close
  | exit
  | malloc
  | free (nonnull : Bool)
  | signal

/-- What is answered. -/
abbrev UsbCall.Answer : UsbCall → Type
  | .init | .kernelDriverActive | .detachKernelDriver | .claimInterface | .controlOut _ _ => Int
  | .openDevice _ _ | .malloc | .signal => Bool
  | .controlIn setup => PollReply setup.length.toNat
  | .interruptIn _ => Completion
  | .releaseInterface | .close | .exit | .free _ => Unit

/-- A tool that returns an `R`. -/
abbrev Tool (R : Type) := Dialogue UsbCall.Answer R

/-- A call with its answer. -/
abbrev UsbExchange := Σ q : UsbCall, q.Answer

/-- Make a call. -/
def usb (q : UsbCall) : Tool q.Answer := question q

/-- The answers of a dongle that takes everything, and has a byte for every poll. -/
def UsbCall.served : (q : UsbCall) → q.Answer
  | .init | .kernelDriverActive | .detachKernelDriver | .claimInterface => (0 : Int)
  | .controlOut setup _ => (setup.length.toNat : Int)
  | .openDevice _ _ | .malloc => true
  | .signal => false
  | .controlIn setup =>
    if some : 1 ≤ setup.length.toNat then .received [0x41] some else .received [] (Nat.zero_le _)
  | .interruptIn _ => ⟨0, [0x41], by decide⟩
  | .releaseInterface | .close | .exit | .free _ => ()

/-- The run of a tool with that dongle. -/
def served {R : Type} (tool : Tool R) : List UsbExchange × R := against (fun _ => UsbCall.served) [] tool

/-- What `open_ks959` returns, and whether the pointers it sets are non-null afterwards. -/
structure OpenedUsb where
  ret : Int
  ctx : Bool
  handle : Bool

/-- The end of `open_ks959`: claim the interface. -/
def claimKs959 : Tool OpenedUsb := do
  let ret : Int ← usb .claimInterface
  if ret ≠ 0 then
    usb .close
    usb .exit
    return ⟨ret, false, false⟩
  else
    return ⟨0, true, true⟩

/-- `open_ks959`. -/
def openKs959 : Tool OpenedUsb := do
  let ret : Int ← usb .init
  if ret ≠ 0 then
    return ⟨ret, false, false⟩
  else
    let handle : Bool ← usb (.openDevice usbVid usbPid)
    if handle = false then
      usb .exit
      return ⟨libusbErrorNoDevice, false, false⟩
    else
      let active : Int ← usb .kernelDriverActive
      if active = 1 then
        -- a failure is printed, and the claim is tried all the same
        let _ ← usb .detachKernelDriver
        claimKs959
      else
        claimKs959

/-- `close_ks959`. -/
def closeKs959 (ctx handle : Bool) : Tool Unit := do
  if handle then
    usb .releaseInterface
    usb .close
  if ctx then
    usb .exit

/-- How far a session has been set up. -/
inductive Stage where
  | down
  | context
  | device
  | claimed
deriving DecidableEq, Repr

/-- A session, and whether a buffer is allocated. -/
structure Usb where
  stage : Stage
  buffer : Bool
deriving DecidableEq, Repr

/-- Nothing is held. -/
def Usb.idle : Usb := ⟨.down, false⟩

/-- The transfer goes out, and as many bytes are handed over as it announces. -/
def OutFits (setup : SetupPacket) (data : Option (List UInt8)) : Prop :=
  setup.requestType &&& 0x80 = 0 ∧ (data.getD []).length = setup.length.toNat

/-- The transfer comes in. -/
def InFits (setup : SetupPacket) : Prop := setup.requestType &&& 0x80 ≠ 0

instance (setup : SetupPacket) (data : Option (List UInt8)) : Decidable (OutFits setup data) :=
  inferInstanceAs (Decidable (_ ∧ _))

instance (setup : SetupPacket) : Decidable (InFits setup) :=
  inferInstanceAs (Decidable (_ ≠ _))

/-- Go from one stage to another. -/
def Usb.move (s : Usb) (source target : Stage) : Option Usb :=
  if s.stage = source then some { s with stage := target } else none

/-- The order of calls in a session. -/
def usbStep (s : Usb) : UsbExchange → Option Usb
  | ⟨.init, (ret : Int)⟩ => s.move .down (if ret = 0 then .context else .down)
  | ⟨.openDevice _ _, (found : Bool)⟩ => s.move .context (if found then .device else .context)
  | ⟨.kernelDriverActive, _⟩ => s.move .device .device
  | ⟨.detachKernelDriver, _⟩ => s.move .device .device
  | ⟨.claimInterface, (ret : Int)⟩ => s.move .device (if ret = 0 then .claimed else .device)
  | ⟨.controlOut setup data, _⟩ => if OutFits setup data then s.move .claimed .claimed else none
  | ⟨.controlIn setup, _⟩ => if InFits setup then s.move .claimed .claimed else none
  | ⟨.interruptIn _, _⟩ => s.move .claimed .claimed
  | ⟨.releaseInterface, _⟩ => s.move .claimed .device
  | ⟨.close, _⟩ => s.move .device .context
  | ⟨.exit, _⟩ => s.move .context .down
  | ⟨.malloc, (ok : Bool)⟩ => if s.buffer then none else some { s with buffer := ok }
  | ⟨.free nonnull, _⟩ => if nonnull = s.buffer then some { s with buffer := false } else none
  | ⟨.signal, _⟩ => some s

variable {R : Type} {b : Bool} {post : R → Usb → Prop}

/-- A call, whatever follows the tool. -/
lemma follows_usb {σ : Type} {step : σ → UsbExchange → Option σ} {s₀ : σ} {post : R → σ → Prop}
    {q : UsbCall} {k : q.Answer → Tool R}
    (next : ∀ a, ∃ s, step s₀ ⟨q, a⟩ = some s ∧ Follows step (k a) s post) :
    Follows step (usb q >>= k) s₀ post :=
  follows_ask next

/-- The rule for a call of libusb: whatever is answered. -/
lemma ensures_usb {post : List UsbExchange → R → Prop} {q : UsbCall} {k : q.Answer → Tool R}
    (next : ∀ a, Ensures (k a) fun t r => post (⟨q, a⟩ :: t) r) : Ensures (usb q >>= k) post :=
  ensures_ask next

/-- A call that takes the session from one stage to another. -/
lemma follows_call {q : UsbCall} {k : q.Answer → Tool R} {source : Stage}
    (target : q.Answer → Stage) (allowed : ∀ s a, usbStep s ⟨q, a⟩ = s.move source (target a))
    (next : ∀ a, Follows usbStep (k a) ⟨target a, b⟩ post) :
    Follows usbStep (usb q >>= k) ⟨source, b⟩ post :=
  follows_usb fun a => ⟨_, (allowed _ a).trans (if_pos rfl), next a⟩

/-- A control transfer, as it is asked for. -/
inductive Request where
  | out (setup : SetupPacket) (data : Option (List UInt8))
  | poll (setup : SetupPacket)
deriving DecidableEq

/-- The control transfer of an exchange. -/
def request? : UsbExchange → Option Request
  | ⟨.controlOut setup data, _⟩ => some (.out setup data)
  | ⟨.controlIn setup, _⟩ => some (.poll setup)
  | _ => none

/-- The control transfers of a run, in order. -/
def requests (t : List UsbExchange) : List Request := t.filterMap request?

/-- A look at `g_stop` that finds it set. -/
def isStop : UsbExchange → Bool
  | ⟨.signal, stop⟩ => stop
  | _ => false

/-- A dialogue without control transfers and looks at `g_stop`. -/
def Silent (p : Tool R) : Prop :=
  ∀ t r, Runs p t r → ∀ x ∈ t, request? x = none ∧ isStop x = false

/-- A return is silent. -/
lemma Silent.halt (r : R) : Silent (Dialogue.halt r : Tool R) := by
  intro t r run
  cases run
  nofun

/-- A call that is neither a transfer nor a look at `g_stop` is silent. -/
lemma Silent.call {q : UsbCall} {k : q.Answer → Tool R}
    (here : ∀ a, request? ⟨q, a⟩ = none ∧ isStop ⟨q, a⟩ = false) (next : ∀ a, Silent (k a)) :
    Silent (usb q >>= k) := by
  intro t r run
  obtain ⟨a, rest, rfl, goes⟩ := runs_ask.mp run
  intro x mem
  obtain rfl | mem := List.mem_cons.mp mem
  · exact here a
  · exact next a rest r goes x mem

/-- A branch is silent when both sides are. -/
lemma Silent.ite {c : Prop} [Decidable c] {p q : Tool R} (yes : Silent p) (no : Silent q) :
    Silent (if c then p else q) := by
  split
  · exact yes
  · exact no

/-- The second half of an open is silent. -/
lemma claimKs959_silent : Silent claimKs959 := by
  refine .call (fun _ => ⟨rfl, rfl⟩) fun ret => .ite ?_ (.halt _)
  exact .call (fun _ => ⟨rfl, rfl⟩) fun _ => .call (fun _ => ⟨rfl, rfl⟩) fun _ => .halt _

/-- An open is silent. -/
lemma openKs959_silent : Silent openKs959 := by
  refine .call (fun _ => ⟨rfl, rfl⟩) fun ret => .ite (.halt _) ?_
  refine .call (fun _ => ⟨rfl, rfl⟩) fun found => .ite ?_ ?_
  · exact .call (fun _ => ⟨rfl, rfl⟩) fun _ => .halt _
  · refine .call (fun _ => ⟨rfl, rfl⟩) fun active => .ite ?_ claimKs959_silent
    exact .call (fun _ => ⟨rfl, rfl⟩) fun _ => claimKs959_silent

/-- A close is silent. -/
lemma closeKs959_silent (ctx handle : Bool) : Silent (closeKs959 ctx handle) := by
  have exit : Silent (usb .exit) := .call (k := Dialogue.halt) (fun _ => ⟨rfl, rfl⟩) fun _ => .halt _
  refine .ite ?_ (.ite exit (.halt _))
  refine .call (fun _ => ⟨rfl, rfl⟩) fun _ => .call (fun _ => ⟨rfl, rfl⟩) fun _ => ?_
  exact .ite exit (.halt _)

end Ks959.Tools
