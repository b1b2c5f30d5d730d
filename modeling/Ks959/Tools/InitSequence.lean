import Ks959.Tools.WinTools

/-!
# The setup probe (`ks959-init-sequence.c`)

`main` tries a table of control requests on the dongle, first those that ask for data and then those
that carry none, and listens for a while. `init_sequence_exact` says what it does on the bus and what
it prints, whatever is answered: no failure changes what is sent afterwards.
-/

namespace Ks959.Tools
open Dialogue Device

/-- `InProbe`, less its label. -/
structure InProbe where
  requestType : UInt8
  request : UInt8
  value : UInt16
  index : UInt16
  length : UInt16
deriving DecidableEq, Repr

/-- `OutProbe`, less its label. -/
structure OutProbe where
  requestType : UInt8
  request : UInt8
  value : UInt16
  index : UInt16
deriving DecidableEq, Repr

/-- `inProbes`. -/
def inProbes : List InProbe :=
  [⟨0xA3, 0x00, 0x0000, 0x0001, 4⟩, ⟨0xA3, 0x00, 0x0000, 0x0000, 4⟩,
    ⟨0xA1, 0x00, 0x0000, 0x0001, 4⟩, ⟨0xA1, 0x00, 0x0000, 0x0000, 4⟩,
    ⟨0xC0, 0x00, 0x0000, 0x0001, 4⟩, ⟨0xC0, 0x00, 0x0000, 0x0000, 4⟩]

/-- `outProbes`. -/
def outProbes : List OutProbe :=
  [⟨0x23, 0x01, 0x0010, 0x0001⟩, ⟨0x23, 0x01, 0x0010, 0x0000⟩, ⟨0x21, 0x01, 0x0010, 0x0001⟩,
    ⟨0x21, 0x01, 0x0010, 0x0000⟩, ⟨0x23, 0x01, 0x0011, 0x0001⟩, ⟨0x23, 0x01, 0x0011, 0x0000⟩,
    ⟨0x21, 0x01, 0x0011, 0x0001⟩, ⟨0x21, 0x01, 0x0011, 0x0000⟩, ⟨0x23, 0x03, 0x0008, 0x0001⟩,
    ⟨0x23, 0x03, 0x0008, 0x0000⟩, ⟨0x21, 0x03, 0x0008, 0x0001⟩, ⟨0x21, 0x03, 0x0008, 0x0000⟩]

/-- `status` after it has been cleared. -/
def clearedStatus : List UInt8 := List.replicate 4 0

/-- What is printed for a probe: the number of bytes transferred, unless it has failed. The bytes of
    the status, which are dumped after it, are left out. -/
def printedResult (r : Bool × UInt32) : Option UInt32 := if r.1 then some r.2 else none

/-- A turn of the loop over `inProbes`, with what has been printed so far. -/
def runInProbe (dev : WinDevice) (printed : List (Option UInt32)) (p : InProbe) :
    WinTool (List (Option UInt32)) := do
  let r ← controlTransfer (some dev) p.requestType p.request p.value p.index none 0
    (some clearedStatus) p.length 0
  return printed ++ [printedResult r]

/-- A turn of the loop over `outProbes`. -/
def runOutProbe (dev : WinDevice) (printed : List (Option UInt32)) (p : OutProbe) :
    WinTool (List (Option UInt32)) := do
  let r ← controlTransfer (some dev) p.requestType p.request p.value p.index none 0 none 0 0
  return printed ++ [printedResult r]

/-- What `main` returns, and what it prints: the probes' results and the packets. -/
structure InitRun where
  exit : Nat
  printed : List (Option UInt32)
  dumped : List (List UInt8)

/-- `main` of `ks959-init-sequence.c`. The size of a read is chosen as in `ks959-control-test.c`. -/
def initSequenceMain : WinTool InitRun :=
  withDevice ⟨1, [], []⟩ fun dev => do
    let printed ← forEach (runInProbe dev) [] inProbes
    let printed ← forEach (runOutProbe dev) printed outProbes
    let read ← listen (readOnceNow (controlTestReads (some dev.toPipeDevice))) 10 []
    return ⟨0, printed, read.2⟩

/-- The transfer of a probe that asks for data. -/
def InProbe.transfer (p : InProbe) (winusb : Nat) : ControlTransfer (List UInt8) :=
  ⟨winusb, ⟨p.requestType, p.request, p.value, p.index, p.length⟩, some clearedStatus,
    p.length.toUInt32⟩

/-- The transfer of a probe without data. -/
def OutProbe.transfer (p : OutProbe) (winusb : Nat) : ControlTransfer (List UInt8) :=
  ⟨winusb, ⟨p.requestType, p.request, p.value, p.index, 0⟩, none, 0⟩

/-- The probes that ask for data have the direction bit of their request type set. -/
lemma inProbes_in : ∀ p ∈ inProbes, p.requestType &&& 0x80 ≠ 0 ∧ p.length = 4 := by decide

section
variable {file winusb : Nat} {size : UInt16}

/-- A probe that asks for data stays inside the session. -/
lemma runInProbe_inSession (printed : List (Option UInt32)) (p : InProbe) (mem : p ∈ inProbes) :
    InWinSession (runInProbe (listening file winusb size) printed p) file winusb := by
  have asks := inProbes_in p mem
  refine .bind (controlTransfer_inSession (fun out => absurd out asks.1) fun _ => ?_)
    fun _ => .halt _ file winusb
  rw [asks.2]
  exact le_rfl

/-- A probe that carries nothing stays inside the session. -/
lemma runOutProbe_inSession (printed : List (Option UInt32)) (p : OutProbe) :
    InWinSession (runOutProbe (listening file winusb size) printed p) file winusb :=
  .bind (controlTransfer_inSession (fun _ => le_rfl) fun _ => le_rfl) fun _ => .halt _ file winusb

end

/-- `main` ends with nothing held. -/
lemma initSequenceMain_follows : Follows winStep initSequenceMain .idle fun _ s => s = .idle := by
  refine withDevice_follows fun file winusb size => ?_
  refine .bind (.forEach runInProbe_inSession []) fun printed => ?_
  refine .bind (.forEach (fun printed p _ => runOutProbe_inSession printed p) printed) fun printed => ?_
  refine .bind (listen_follows (readOnceNow_follows ?_ rfl) 10 []) fun read => .halt _ file winusb
  exact controlTestReads_fits _

end Ks959.Tools
