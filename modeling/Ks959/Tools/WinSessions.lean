import Ks959.Tools.ControlTest
import Ks959.Tools.InitSequence
import Ks959.Tools.Probe

/-!
# The sessions of the tools over WinUSB

`winusb_tools_leave_nothing` is about the four of them at once: the machine of a WinUSB session can
follow every run of theirs, and is idle at the end. So a handle is used only while it is held and
given back once, the interface before the file; an event lives no longer than its read; a transfer
has one length, and a buffer for it; and the search inside an open gives back what it has allocated.
-/

namespace Ks959.Tools
open Dialogue Device Ledger

/-- Every run is a sequence of sessions that ends with nothing held. -/
def LeavesNothingOpen {R : Type} (main : WinTool R) : Prop :=
  Ensures main fun t _ => Machine.run winStep .idle t = some .idle

/-- A tool that follows the sessions leaves nothing open. -/
lemma leavesNothingOpen {R : Type} {main : WinTool R}
    (follows : Follows winStep main .idle fun _ s => s = .idle) : LeavesNothingOpen main := by
  intro t r run
  obtain ⟨s, ran, idle⟩ := follows t r run
  rwa [idle] at ran

/-- A search gives back the list and its buffers; what it holds at the end is the path, if it has
    found one. -/
lemma DongleSearch.disciplined (search : DongleSearch) :
    Disciplined (events search.result.calls)
      fun x => x = .devicePath ∧ search.result.found = true := by
  obtain ⟨r, ψ, path, run, out, booked, searched, ok⟩ :=
    getDevicePath_booked search.env usbVid usbPid none
  have ran := search.ran
  rw [getKs959DevicePath_eq, run] at ran
  cases same : search.result with
  | mk found outDevicePath calls =>
    rw [same] at ran
    cases ran
    refine disciplined_of_replay booked fun x => ?_
    have found : (r.status == .ok) = true ↔ path.isSome := by rw [beq_iff_eq, ok]
    rw [found]
    cases x with
    | devInfo => exact iff_of_false (fun held => Resource.noConfusion held.1) searched.devInfo
    | detailData j => exact iff_of_false (fun held => Resource.noConfusion held.1) (searched.idle j)
    | devicePath =>
      rw [searched.devicePath]
      cases path with
      | none => exact iff_of_false (fun held => Bool.false_ne_true held.2) Ledger.Phase.noConfusion
      | some path => exact iff_of_true ⟨rfl, rfl⟩ rfl
    | device =>
      rw [searched.device]
      exact iff_of_false (fun held => Resource.noConfusion held.1) Ledger.Phase.noConfusion
    | file handle =>
      rw [searched.file handle]
      exact iff_of_false (fun held => Resource.noConfusion held.1) Ledger.Phase.noConfusion
    | winusb handle =>
      rw [searched.winusb handle]
      exact iff_of_false (fun held => Resource.noConfusion held.1) Ledger.Phase.noConfusion

/-- Whatever the system answers, no tool leaves anything behind, and no search in a run does. -/
theorem winusb_tools_leave_nothing :
    LeavesNothingOpen monitorMain ∧ LeavesNothingOpen probeMain ∧
      LeavesNothingOpen initSequenceMain ∧
      (∀ strdup argv, ∃ p, controlTestMain strdup argv = some p ∧ LeavesNothingOpen p) ∧
      ∀ search : DongleSearch, Disciplined (events search.result.calls)
        fun x => x = .devicePath ∧ search.result.found = true := by
  refine ⟨leavesNothingOpen monitorMain_follows, leavesNothingOpen probeMain_follows,
    leavesNothingOpen initSequenceMain_follows, fun strdup argv => ?_, DongleSearch.disciplined⟩
  obtain ⟨p, main, follows⟩ := controlTestMain_follows strdup argv
  exact ⟨p, main, leavesNothingOpen follows⟩

/-- The monitor sends nothing to the dongle: a run of it submits fifty reads at most, and reports the
    packets that WinUSB hands out for them. Without a dongle there are none. -/
theorem monitor_reads_only : Ensures monitorMain fun t r => ∃ reads, OnBus t [] r.2 reads ∧
    reads ≤ 50 ∧ (r.1 = 1 → reads = 0 ∧ r.2 = []) ∧ (r.1 = 0 ∨ r.1 = 1 ∨ r.1 = 2) := by
  have body (c : ReadLoop) : Ensures (do
      let read ← readLoop c 50 []
      return (if read.1 then 0 else 2, read.2)) fun t (r : Nat × List (List UInt8)) =>
      ∃ reads, OnBus t [] r.2 reads ∧ reads ≤ 50 ∧ (r.1 = 0 ∨ r.1 = 2) := by
    refine Ensures.bind (listen_reports (readOnce_reports c) 50 []) fun t read done => ?_
    obtain ⟨packets, reads, bus, few, dumped⟩ := done
    obtain ⟨ok, packets'⟩ := read
    cases dumped
    refine ensures_halt ⟨reads, by rwa [List.append_nil], few, ?_⟩
    cases ok with
    | false => exact .inr rfl
    | true => exact .inl rfl
  refine (withDevice_ensures fun _ _ _ => body _).mono fun t r done => ?_
  obtain ⟨rfl, bus⟩ | ⟨t₁, t₂, t₃, winusb, rfl, before, after, reads, bus, few, code⟩ := done
  · exact ⟨0, bus, Nat.zero_le _, fun _ => ⟨rfl, rfl⟩, .inr (.inl rfl)⟩
  · refine ⟨reads, before.between bus after, few, fun absent => ?_, code.imp_right .inr⟩
    obtain ok | stopped := code
    · cases ok.symm.trans absent
    · cases stopped.symm.trans absent

end Ks959.Tools
