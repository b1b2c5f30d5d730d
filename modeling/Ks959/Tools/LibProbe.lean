import Ks959.Tools.ControlTest
import Ks959.Tools.LibraryTools

/-!
# The library probe (`ks959-lib-probe.c`)

Without arguments the tool opens and closes the device; with five it reads a request off them and
makes it through the library. `lib_probe_exact` tells from the arguments and the answers of the
system what the tool does: which exit code it ends with, that it makes the one transfer that its
arguments demand or none, and what it reports of it.
-/

namespace Ks959.Tools
open Device Ledger Tokens

/-- The request of five arguments. -/
def readProbe (argv : List CString) : Option CtrlProbe :=
  match readNumbers argv, parseU16 argv[4]? (some 0) with
  | some (requestType, request, value, index), (true, some length) =>
    some ⟨requestType, request, value, index, length⟩
  | _, _ => none

/-- `sizeof(buffer)`. -/
def probeBufferSize : UInt16 := 256

/-- The exit code for a probe. -/
def ProbeReport.exit (failure : Nat) : ProbeReport → Nat
  | .done _ => 0
  | .fail _ _ => failure

/-- Make a request and report it, `failure` being the exit code of a request that fails. -/
def reportCall (dev : Ks959Device) (failure : Nat) (call : ApiCall Unit) : LibraryBody :=
  let run := runProbe (some dev) call
  ⟨run.report.exit failure, [run.report], run.calls⟩

/-- What `main` does with the device. -/
def libProbeBody (winusb : ProbeAnswer) (argv : List CString) (dev : Ks959Device) : LibraryBody :=
  if argv.length = 0 then ⟨0, [], []⟩
  else if argv.length ≠ 5 then ⟨2, [], []⟩
  else
    match readProbe argv with
    | none => ⟨3, [], []⟩
    | some p =>
      if p.length > probeBufferSize then ⟨4, [], []⟩
      else if p.requestType &&& 0x80 ≠ 0 then reportCall dev 5 (readCall p winusb)
      -- the call is made before the length is looked at
      else if p.length ≠ 0 then ⟨6, [], [writeCall p winusb]⟩
      else reportCall dev 7 (writeCall p winusb)

/-- `main` of `ks959-lib-probe.c`. -/
def libProbeMain (env : Env) (winusb : ProbeAnswer) (argv : List CString) : Option LibraryRun :=
  withLibrary env (libProbeBody winusb argv)

/-- The request that five arguments stand for. -/
structure Demanded (argv : List CString) (p : CtrlProbe) : Prop where
  count : argv.length = 5
  numbers : Numbers argv p.requestType p.request p.value p.index
  length : ∃ s, argv[4]? = some s ∧ Denotes s.chars p.length.toNat

/-- What the tool ends with when it has a device: its exit code, its reports and its transfers. -/
inductive LibProbed (env : Env) (answer : ProbeAnswer) (argv : List CString) :
    Nat → List ProbeReport → List (ControlTransfer Unit × TransferOutcome) → Prop where
  | idle (alone : argv = []) : LibProbed env answer argv 0 [] []
  | usage (some : argv ≠ []) (count : argv.length ≠ 5) : LibProbed env answer argv 2 [] []
  | malformed (count : argv.length = 5) (none : ∀ p, ¬ Demanded argv p) :
      LibProbed env answer argv 3 [] []
  | long {p : CtrlProbe} (demanded : Demanded argv p) (length : 256 < p.length.toNat) :
      LibProbed env answer argv 4 [] []
  | unsupported {p : CtrlProbe} (demanded : Demanded argv p) (out : p.requestType &&& 0x80 = 0)
      (payload : p.length ≠ 0) : LibProbed env answer argv 6 [] []
  | read {p : CtrlProbe} {winusb : Nat} (demanded : Demanded argv p)
      (inn : p.requestType &&& 0x80 ≠ 0) (fits : p.length.toNat ≤ 256)
      (initialized : env.winusbInitialize = .ok winusb) :
      LibProbed env answer argv ((truth (answer (readTransfer winusb p))).exit 5)
        [truth (answer (readTransfer winusb p))]
        [(readTransfer winusb p, answer (readTransfer winusb p))]
  | write {p : CtrlProbe} {winusb : Nat} (demanded : Demanded argv p)
      (out : p.requestType &&& 0x80 = 0) (empty : p.length = 0)
      (initialized : env.winusbInitialize = .ok winusb) :
      LibProbed env answer argv ((truth (answer (writeTransfer winusb p))).exit 7)
        [truth (answer (writeTransfer winusb p))]
        [(writeTransfer winusb p, answer (writeTransfer winusb p))]

variable {argv : List CString} {env : Env} {answer : ProbeAnswer} {file winusb : Nat}
  {p : CtrlProbe}

/-- Five arguments are read as the request that they demand, or demand none. -/
lemma readProbe_or (count : argv.length = 5) :
    (∃ p, readProbe argv = some p ∧ Demanded argv p) ∨
      readProbe argv = none ∧ ∀ p, ¬ Demanded argv p := by
  obtain ⟨s, last⟩ : ∃ s, argv[4]? = some s :=
    ⟨_, List.getElem?_eq_getElem (count ▸ by decide)⟩
  obtain ⟨requestType, request, value, index, read, numbers⟩ | ⟨bad, none⟩ :=
    readNumbers_or (count ▸ by decide : 4 ≤ argv.length)
  · obtain ⟨length, parsed, denotes⟩ | ⟨bad, none⟩ := parseU16_or s
    · refine .inl ⟨⟨requestType, request, value, index, length⟩, ?_, count, numbers, s, last,
        denotes⟩
      simp only [readProbe, read, last, parsed]
    · refine .inr ⟨?_, fun p demanded => ?_⟩
      · simp only [readProbe, read, last, bad]
      · obtain ⟨s', same, denotes⟩ := demanded.length
        cases last.symm.trans same
        exact none _ denotes
  · refine .inr ⟨?_, fun p demanded => none _ _ _ _ demanded.numbers⟩
    simp only [readProbe, bad]

/-- The direction of a read passes the library's check. -/
lemma read_direction (inn : p.requestType &&& 0x80 ≠ 0) : (p.requestType &&& 0x80 == 0) = false :=
  beq_eq_false_iff_ne.mpr inn

/-- The direction of a write passes the library's check. -/
lemma write_direction (out : p.requestType &&& 0x80 = 0) :
    (p.requestType &&& 0x80 != 0) = false := by
  rw [out]
  rfl

/-- A request with a length and without a buffer is turned down. -/
lemma writeCall_rejected (d : Ks959Device) (payload : p.length ≠ 0) :
    transfers (some d) [writeCall p answer] = [] := by
  have inadm : ∀ handle s, ¬ Admissible (fun requestType => requestType &&& 0x80 != 0) (some d)
      (some p.setup) (none : Option Unit) 0 handle s := by
    rintro handle s ⟨_, packet, _, length, _⟩
    cases packet
    exact payload length
  have turned := @ctrlTransfer_rejected Unit (fun requestType => requestType &&& 0x80 != 0)
    (some d) (some p.setup) none 0 (some 0) answer inadm
  exact congrArg (fun r => r.issued ++ []) turned

/-- A probe ends with the truth about its transfer. -/
lemma reportCall_exact {call : ApiCall Unit} {t : ControlTransfer Unit} {failure : Nat}
    (hands : Hands winusb call t (answer t)) :
    (reportCall (openedDevice file winusb) failure call).exit = (truth (answer t)).exit failure ∧
      (reportCall (openedDevice file winusb) failure call).reports = [truth (answer t)] ∧
      transfers (some (openedDevice file winusb))
        (reportCall (openedDevice file winusb) failure call).calls = [(t, answer t)] := by
  obtain ⟨report, issued, _⟩ := @runProbe_exact (openedDevice file winusb) winusb _ _ _ rfl hands
  exact ⟨congrArg (ProbeReport.exit failure) report, congrArg (fun r => [r]) report, issued⟩

/-- With a device, the tool does what its arguments tell. -/
lemma libProbeBody_probed (initialized : env.winusbInitialize = .ok winusb) :
    LibProbed env answer argv (libProbeBody answer argv (openedDevice file winusb)).exit
      (libProbeBody answer argv (openedDevice file winusb)).reports
      (transfers (some (openedDevice file winusb))
        (libProbeBody answer argv (openedDevice file winusb)).calls) := by
  by_cases alone : argv.length = 0
  · rw [libProbeBody, if_pos alone]
    exact .idle (List.length_eq_zero_iff.mp alone)
  by_cases count : argv.length = 5
  · rw [libProbeBody, if_neg alone, if_neg (not_not.mpr count)]
    obtain ⟨p, read, demanded⟩ | ⟨bad, none⟩ := readProbe_or count
    · rw [read]
      dsimp only
      split_ifs with long inn payload
      · exact .long demanded (UInt16.lt_iff_toNat_lt.mp long)
      · obtain ⟨exit, reports, issued⟩ := @reportCall_exact answer file winusb _ _ 5
          (readCall_hands (read_direction inn) answer)
        rw [exit, reports, issued]
        exact .read demanded inn (UInt16.le_iff_toNat_le.mp (UInt16.not_lt.mp long)) initialized
      · rw [writeCall_rejected _ payload]
        exact .unsupported demanded (not_not.mp inn) payload
      · obtain ⟨exit, reports, issued⟩ := @reportCall_exact answer file winusb _ _ 7
          (writeCall_hands (write_direction (not_not.mp inn)) (not_not.mp payload) answer)
        rw [exit, reports, issued]
        exact .write demanded (not_not.mp inn) (not_not.mp payload) initialized
    · rw [bad]
      exact .malformed count none
  · rw [libProbeBody, if_neg alone, if_pos count]
    exact .usage (fun none => alone (none ▸ rfl)) count

/-- What the tool does is told by its arguments and by the answers of the system, and it leaves
    nothing open. -/
theorem lib_probe_exact (env : Env) (answer : ProbeAnswer) (argv : List CString) :
    ∃ m, libProbeMain env answer argv = some m ∧ Disciplined m.trace (fun _ => False) ∧
      ((¬ LibraryOpens env ∧ m.exit = 1 ∧ m.reports = [] ∧ m.issued = []) ∨
        LibraryOpens env ∧ LibProbed env answer argv m.exit m.reports m.issued) ∧
      (∀ p q, Demanded argv p → Demanded argv q → p = q) := by
  obtain ⟨m, main, clean, ran⟩ := withLibrary_ran env (libProbeBody answer argv)
  refine ⟨m, main, clean, ?_, ?_⟩
  · cases ran with
    | absent failed => exact .inl ⟨failed, rfl, rfl, rfl⟩
    | opened opens initialized => exact .inr ⟨opens, libProbeBody_probed initialized⟩
  · intro p q demanded demanded'
    obtain ⟨s, last, denotes⟩ := demanded.length
    obtain ⟨s', last', denotes'⟩ := demanded'.length
    cases last.symm.trans last'
    have read := (parseU16_parses.accepts s 0 p.length).mpr denotes
    have read' := (parseU16_parses.accepts s 0 q.length).mpr denotes'
    have length := Option.some.inj (congrArg Prod.snd (read.symm.trans read'))
    obtain ⟨requestType, request, value, index⟩ := demanded.numbers.unique demanded'.numbers
    cases p
    cases q
    exact (CtrlProbe.mk.injEq ..).mpr
      ⟨requestType.symm, request.symm, value.symm, index.symm, length⟩

end Ks959.Tools
