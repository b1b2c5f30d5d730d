import Ks959.Tools.LibraryTools

/-!
# The control matrix (`ks959-ctrl-matrix.c`)

The tool goes through a table of requests for data and a table of requests without.
`ctrl_matrix_exact` says that its report is the truth about the dongle: unless the open fails, all
24 requests go out, in the order of the tables, and what is printed for each is what WinUSB has
answered to that very request, the error included.
-/

namespace Ks959.Tools
open Device Ledger

/-- One probe after another. -/
def runProbes : Option Ks959Device → List (ApiCall Unit) → List ProbeRun
  | _, [] => []
  | dev, call :: rest =>
    let run := runProbe dev call
    run :: runProbes (deviceAfter dev run.calls) rest

/-- `read_probes`. -/
def readProbes : List CtrlProbe :=
  [⟨0xC0, 0x00, 0x0000, 0x0000, 4⟩,
    ⟨0xC0, 0x00, 0x0000, 0x0001, 4⟩,
    ⟨0xA1, 0x00, 0x0000, 0x0000, 4⟩,
    ⟨0xA1, 0x00, 0x0000, 0x0001, 4⟩,
    ⟨0xA3, 0x00, 0x0000, 0x0000, 4⟩,
    ⟨0xA3, 0x00, 0x0000, 0x0001, 4⟩]

/-- `write_probes`. -/
def writeProbes : List CtrlProbe :=
  [⟨0x40, 0x01, 0x0010, 0x0000, 0⟩,
    ⟨0x40, 0x01, 0x0010, 0x0001, 0⟩,
    ⟨0x21, 0x01, 0x0010, 0x0000, 0⟩,
    ⟨0x21, 0x01, 0x0010, 0x0001, 0⟩,
    ⟨0x23, 0x01, 0x0010, 0x0000, 0⟩,
    ⟨0x23, 0x01, 0x0010, 0x0001, 0⟩,
    ⟨0x40, 0x01, 0x0011, 0x0000, 0⟩,
    ⟨0x40, 0x01, 0x0011, 0x0001, 0⟩,
    ⟨0x21, 0x01, 0x0011, 0x0000, 0⟩,
    ⟨0x21, 0x01, 0x0011, 0x0001, 0⟩,
    ⟨0x23, 0x01, 0x0011, 0x0000, 0⟩,
    ⟨0x23, 0x01, 0x0011, 0x0001, 0⟩,
    ⟨0x40, 0x03, 0x0008, 0x0000, 0⟩,
    ⟨0x40, 0x03, 0x0008, 0x0001, 0⟩,
    ⟨0x21, 0x03, 0x0008, 0x0000, 0⟩,
    ⟨0x21, 0x03, 0x0008, 0x0001, 0⟩,
    ⟨0x23, 0x03, 0x0008, 0x0000, 0⟩,
    ⟨0x23, 0x03, 0x0008, 0x0001, 0⟩]

/-- The calls of a table, `answers` telling how WinUSB answers each of its transfers. -/
def tableCalls (call : CtrlProbe → ProbeAnswer → ApiCall Unit) (answers : Nat → ProbeAnswer)
    (probes : List CtrlProbe) : List (ApiCall Unit) :=
  probes.zipIdx.map fun x => call x.1 (answers x.2)

/-- The two loops of `main`. -/
def matrixRuns (dev : Ks959Device) (reads writes : Nat → ProbeAnswer) : List ProbeRun :=
  runProbes (some dev)
    (tableCalls readCall reads readProbes ++ tableCalls writeCall writes writeProbes)

/-- `main`. -/
def ctrlMatrixMain (env : Env) (reads writes : Nat → ProbeAnswer) : Option LibraryRun :=
  withLibrary env fun dev =>
    let runs := matrixRuns dev reads writes
    ⟨0, runs.map ProbeRun.report, runs.flatMap ProbeRun.calls⟩

variable {d : Ks959Device} {winusb : Nat} {answers : Nat → ProbeAnswer}

/-- Probes that hand their transfers on report the truth about them, one after another. -/
lemma runProbes_exact {calls : List (ApiCall Unit)}
    {sent : List (ControlTransfer Unit × TransferOutcome)} (bound : d.winusbHandle = some winusb)
    (hands : List.Forall₂ (fun call x => Hands winusb call x.1 x.2) calls sent) :
    (runProbes (some d) calls).map ProbeRun.report = sent.map (fun x => truth x.2) ∧
      transfers (some d) ((runProbes (some d) calls).flatMap ProbeRun.calls) = sent := by
  induction hands generalizing d with
  | nil => exact ⟨rfl, rfl⟩
  | cons here _ ih =>
    obtain ⟨report, issued, error, after⟩ := runProbe_exact bound here
    obtain ⟨reports, rest⟩ := @ih { d with lastOsError := error } bound
    constructor
    · rw [runProbes, after, List.map_cons, report, reports, List.map_cons]
    · rw [runProbes, after, List.flatMap_cons, transfers_append, issued, after, rest]
      rfl

/-- What goes over the wire for a table, and how it is answered. -/
def tableTransfers (transfer : CtrlProbe → ControlTransfer Unit) (answers : Nat → ProbeAnswer)
    (probes : List CtrlProbe) : List (ControlTransfer Unit × TransferOutcome) :=
  probes.zipIdx.map fun x => (transfer x.1, answers x.2 (transfer x.1))

/-- Where each call of a table hands its transfer on, the whole table does. -/
lemma tableCalls_hand {call : CtrlProbe → ProbeAnswer → ApiCall Unit}
    {transfer : CtrlProbe → ControlTransfer Unit} {probes : List CtrlProbe}
    (hands : ∀ p ∈ probes, ∀ answer, Hands winusb (call p answer) (transfer p)
      (answer (transfer p))) :
    List.Forall₂ (fun call x => Hands winusb call x.1 x.2) (tableCalls call answers probes)
      (tableTransfers transfer answers probes) := by
  rw [tableCalls, tableTransfers, List.forall₂_map_left_iff, List.forall₂_map_right_iff,
    List.forall₂_same]
  intro x mem
  exact hands x.1 (List.fst_mem_of_mem_zipIdx mem) _

/-- The requests of the first table ask for data. -/
lemma readProbes_in : ∀ p ∈ readProbes, (p.requestType &&& 0x80 == 0) = false := by decide

/-- The requests of the second table carry none. -/
lemma writeProbes_out :
    ∀ p ∈ writeProbes, (p.requestType &&& 0x80 != 0) = false ∧ p.length = 0 := by decide

/-- The tool opens the device, makes all its requests in order and prints the truth about each, or
    makes none and prints neither ids nor reports. In both cases it leaves nothing open. -/
theorem ctrl_matrix_exact (env : Env) (reads writes : Nat → ProbeAnswer) :
    ∃ m, ctrlMatrixMain env reads writes = some m ∧ Disciplined m.trace (fun _ => False) ∧
      ((¬ LibraryOpens env ∧ m.exit = 1 ∧ m.issued = [] ∧ m.reports = [] ∧ m.ids = none) ∨
        ∃ winusb, LibraryOpens env ∧ env.winusbInitialize = .ok winusb ∧ m.exit = 0 ∧
          m.ids = some (usbVid, usbPid) ∧
          m.issued = tableTransfers (readTransfer winusb) reads readProbes
            ++ tableTransfers (writeTransfer winusb) writes writeProbes ∧
          m.reports = m.issued.map fun x => truth x.2) := by
  obtain ⟨m, main, clean, ran⟩ := withLibrary_ran env fun dev =>
    ⟨0, (matrixRuns dev reads writes).map ProbeRun.report,
      (matrixRuns dev reads writes).flatMap ProbeRun.calls⟩
  refine ⟨m, main, clean, ?_⟩
  cases ran with
  | absent failed => exact .inl ⟨failed, rfl, rfl, rfl, rfl⟩
  | @opened file winusb _ opens initialized =>
    have reading := @tableCalls_hand winusb reads readCall (readTransfer winusb) readProbes
      fun p mem answer => readCall_hands (readProbes_in p mem) answer
    have writing := @tableCalls_hand winusb writes writeCall (writeTransfer winusb) writeProbes
      fun p mem answer => writeCall_hands (writeProbes_out p mem).1 (writeProbes_out p mem).2 answer
    obtain ⟨reports, issued⟩ := @runProbes_exact (openedDevice file winusb) winusb _ _ rfl
      (List.rel_append reading writing)
    refine .inr ⟨winusb, opens, initialized, rfl, rfl, issued, ?_⟩
    exact reports.trans (congrArg (List.map fun x => truth x.2) issued.symm)

end Ks959.Tools
