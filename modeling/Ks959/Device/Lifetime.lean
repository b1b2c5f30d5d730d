import Ks959.Device.Bookkeeping

/-!
# Lifetimes (`ks959_device.c`)

`ks959_get_vid_pid`, and the life of a device from its open over any session of calls to its close.
A call reads the structure behind its device pointer, and a transfer goes through the interface
handle that is stored there (`touched`). `lifetime_disciplined` says that these are held whenever
they are touched, and given back by the close, whatever calls are made between.
-/

namespace Ks959.Device
open Ledger

/-- `ks959_get_vid_pid`: the status and what the two pointers hold afterwards. -/
def ks959GetVidPid (dev : Option Ks959Device) (vid pid : Option UInt16) :
    Status × Option UInt16 × Option UInt16 :=
  match dev, vid, pid with
  | some d, some _, some _ => (.ok, some d.vid, some d.pid)
  | _, _, _ => (.errInvalidArg, vid, pid)

variable {ι : Type} {d d' : Ks959Device} {call : ApiCall ι}

/-- What a call touches: the structure, and for a transfer the interface and the structure again,
    to which the error of a transfer that fails goes. -/
def ApiCall.touched (d : Ks959Device) (call : ApiCall ι) : List (Event Resource) :=
  .use .device :: (call.perform (some d)).issued.flatMap fun t =>
    [.use (.winusb t.1.handle), .use .device]

/-- What a session touches. -/
def sessionEvents : Option Ks959Device → List (ApiCall ι) → List (Event Resource)
  | none, _ => []
  | _, [] => []
  | some d, call :: calls => call.touched d ++ sessionEvents (call.perform (some d)).dev calls

/-- The life of a device: its open, a session, its close. -/
def lifetime (opened : OpenReturn) (dev : Ks959Device) (calls : List (ApiCall ι)) :
    List (Event Resource) :=
  events opened.calls ++ (sessionEvents (some dev) calls ++
    events (ks959Close (deviceAfter (some dev) calls)))

/-- A control transfer goes through the device's interface. -/
lemma ctrlTransfer_handle {turnsDown : UInt8 → Bool} {a : CtrlArgs ι}
    {t : ControlTransfer ι × TransferOutcome}
    (issued : t ∈ (ctrlTransfer turnsDown (some d) a.setup a.buffer a.bufferLen
      a.bytesTransferred a.winusb).issued) : d.winusbHandle = some t.1.handle := by
  obtain ⟨_, r⟩ | ⟨handle, s, adm, ⟨err, _, r⟩ | ⟨n, _, r⟩⟩ :=
    @ctrlTransfer_cases ι turnsDown (some d) a.setup a.buffer a.bufferLen a.bytesTransferred
      a.winusb
  · rw [r] at issued
    cases issued
  · rw [r] at issued
    cases List.mem_singleton.mp issued
    exact adm.device
  · rw [r] at issued
    cases List.mem_singleton.mp issued
    exact adm.device

/-- Whatever transfer a call makes, it goes through the device's interface. -/
lemma perform_handle {t : ControlTransfer ι × TransferOutcome}
    (issued : t ∈ (call.perform (some d)).issued) : d.winusbHandle = some t.1.handle := by
  cases call with
  | ctrlWrite a => exact ctrlTransfer_handle issued
  | ctrlRead a => exact ctrlTransfer_handle issued
  | lastOsError out => cases issued

/-- A call changes nothing of a device but the error slot. -/
lemma perform_frame (d : Ks959Device) (call : ApiCall ι) :
    ∃ error, (call.perform (some d)).dev = some { d with lastOsError := error } := by
  cases performed (some d) call with
  | asked _ _ _ same => exact ⟨d.lastOsError, same⟩
  | rejected _ _ same _ => exact ⟨d.lastOsError, same⟩
  | failed t err _ _ slot _ => exact ⟨err, slot⟩
  | succeeded t n _ _ same _ => exact ⟨d.lastOsError, same⟩

/-- A session changes nothing of a device but the error slot. -/
lemma session_frame (d : Ks959Device) (calls : List (ApiCall ι)) :
    ∃ error, deviceAfter (some d) calls = some { d with lastOsError := error } := by
  induction calls generalizing d with
  | nil => exact ⟨d.lastOsError, rfl⟩
  | cons call calls ih =>
    obtain ⟨error, moved⟩ := perform_frame d call
    obtain ⟨error', after⟩ := ih { d with lastOsError := error }
    exact ⟨error', by rw [deviceAfter, moved, after]⟩

/-- The transfers of two sessions in a row. -/
lemma transfers_append (dev : Option Ks959Device) (calls calls' : List (ApiCall ι)) :
    transfers dev (calls ++ calls')
      = transfers dev calls ++ transfers (deviceAfter dev calls) calls' := by
  induction calls generalizing dev with
  | nil => rfl
  | cons call calls ih =>
    rw [List.cons_append, transfers, transfers, ih, List.append_assoc]
    rfl

/-- All transfers of a session go through the device's interface. -/
lemma session_handles (d : Ks959Device) (calls : List (ApiCall ι)) :
    ∀ t ∈ transfers (some d) calls, d.winusbHandle = some t.1.handle := by
  induction calls generalizing d with
  | nil => exact List.forall_mem_nil _
  | cons call calls ih =>
    obtain ⟨error, moved⟩ := perform_frame d call
    intro t mem
    rw [transfers, moved] at mem
    rcases List.mem_append.mp mem with now | later
    · exact perform_handle now
    · exact ih { d with lastOsError := error } t later

section
variable {ψ : Resource → Phase} {winusb : Nat}

/-- Transfers through an interface that is held change nothing in the ledger. -/
lemma replay_issued {ts : List (ControlTransfer ι × TransferOutcome)} (device : ψ .device = .live)
    (interface : ψ (.winusb winusb) = .live) (handles : ∀ t ∈ ts, winusb = t.1.handle) :
    replay ψ (ts.flatMap fun t => [.use (.winusb t.1.handle), .use .device]) = some ψ := by
  induction ts with
  | nil => rfl
  | cons t ts ih =>
    obtain ⟨here, rest⟩ := List.forall_mem_cons.mp handles
    rw [List.flatMap_cons, ← here, List.cons_append, List.singleton_append,
      replay_use interface, replay_use device]
    exact ih rest

/-- A session touches nothing but what an open device holds. -/
lemma replay_session (bound : d.winusbHandle = some winusb) (device : ψ .device = .live)
    (interface : ψ (.winusb winusb) = .live) (calls : List (ApiCall ι)) :
    replay ψ (sessionEvents (some d) calls) = some ψ := by
  induction calls generalizing d with
  | nil => rfl
  | cons call calls ih =>
    obtain ⟨error, moved⟩ := perform_frame d call
    have handles : ∀ t ∈ (call.perform (some d)).issued, winusb = t.1.handle := fun t mem =>
      Option.some.inj (bound.symm.trans (perform_handle mem))
    have touched : replay ψ (call.touched d) = some ψ := by
      rw [ApiCall.touched, replay_use device]
      exact replay_issued device interface handles
    rw [sessionEvents, replay_append, touched, moved]
    exact @ih { d with lastOsError := error } bound

/-- The life of a device that has been opened with these handles. -/
lemma lifetime_clean {r : OpenReturn} {file : Nat}
    (booked : replay empty (events r.calls) = some ψ)
    (held : ∀ x, ψ x = .live ↔ x = .device ∨ x = .file file ∨ x = .winusb winusb)
    (handle : d.deviceHandle = some file) (bound : d.winusbHandle = some winusb)
    (calls : List (ApiCall ι)) : Disciplined (lifetime r d calls) fun _ => False := by
  obtain ⟨error, after⟩ := session_frame d calls
  obtain ⟨χ, closing, idle⟩ := ks959Close_booked { d with lastOsError := error } handle bound held
  have device := (held .device).mpr (.inl rfl)
  have interface := (held (.winusb winusb)).mpr (.inr (.inr rfl))
  have whole : replay empty (lifetime r d calls) = some χ := by
    rw [lifetime, replay_append, booked, Option.bind_some, replay_append,
      replay_session bound device interface, after]
    exact closing
  exact disciplined_of_replay whole fun x => ⟨False.elim, idle x⟩

end

/-- Whatever is called between, the life of a device is clean: its open, every call and every
    transfer of the session and its close touch only what is held, and nothing is held afterwards.
    All transfers go through the handle that the open has got, and the device keeps its two ids. -/
theorem lifetime_disciplined (env : Env) (old : Option Ks959Device) :
    ∃ r, ks959Open env (some old) = some r ∧ ∀ dev, r.outDev = some (some dev) →
      ∀ calls : List (ApiCall ι),
        Disciplined (lifetime r dev calls) (fun _ => False) ∧
        (∀ t ∈ transfers (some dev) calls, env.winusbInitialize = .ok t.1.handle) ∧
        ∀ vid pid, ks959GetVidPid (deviceAfter (some dev) calls) (some vid) (some pid)
          = (.ok, some usbVid, some usbPid) := by
  obtain ⟨r, ψ, run, booked, ended⟩ := ks959Open_booked env old
  refine ⟨r, run, fun dev out calls => ?_⟩
  cases ended with
  | failed error null idle =>
    rw [null] at out
    cases out
  | opened file winusb created initialized ok out' held =>
    rw [out'] at out
    cases out
    refine ⟨lifetime_clean booked held rfl rfl calls, ?_, ?_⟩
    · intro t mem
      cases session_handles _ calls t mem
      exact initialized
    · intro vid pid
      obtain ⟨error, after⟩ := session_frame ⟨some file, some winusb, usbVid, usbPid, 0⟩ calls
      rw [after]
      rfl

end Ks959.Device
