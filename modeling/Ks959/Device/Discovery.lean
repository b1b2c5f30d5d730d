import Ks959.Api
import Ks959.Device.Path
import Ks959.Lib.Ledger

/-!
# Device discovery (`ks959_device.c`)

`getDevicePath` walks the enumerated interfaces and copies the path of the first one that carries
the identifier. What the system answers is an `Env`, and the model logs every call it makes and
every access to what it has allocated (`SysCall`), so that the log can be booked on a ledger of the
resources (`events`).

`visitInterface` is one turn of the loop. `visitInterface_booked` says what a turn leaves on the
ledger, and `enumLoop_booked` carries this over all turns: whatever the system answers, the search
releases the list and every detail buffer, and holds the copied path only when it has found one.
-/

namespace Ks959.Device
open Ledger

/-- What is acquired on the way and has to be released. -/
inductive Resource where
  | devInfo
  | detailData (index : UInt32)
  | devicePath
  | device
  | file (handle : Nat)
  | winusb (handle : Nat)
deriving DecidableEq, Repr

/-- A call, or an access to an allocated object, with what it answered. -/
inductive SysCall where
  | getClassDevs (ok : Bool)
  | enumDeviceInterfaces (index : UInt32) (ok : Bool)
  | querySize (index : UInt32)
  | queryDetail (index : UInt32) (ok : Bool)
  | destroyDeviceInfoList
  | alloc (what : Resource) (ok : Bool)
  | access (what : Resource)
  | free (what : Resource)
  | createFile (answer : Except UInt32 Nat)
  | winusbInitialize (file : Nat) (answer : Except UInt32 Nat)
  | winusbFree (handle : Nat)
  | closeHandle (handle : Nat)

/-- What a call acquires, uses and releases. -/
def SysCall.effects : SysCall → List (Event Resource)
  | .getClassDevs ok => if ok then [.acquire .devInfo] else []
  | .enumDeviceInterfaces _ _ => [.use .devInfo]
  | .querySize _ => [.use .devInfo]
  | .queryDetail index _ => [.use .devInfo, .use (.detailData index)]
  | .destroyDeviceInfoList => [.release .devInfo]
  | .alloc what ok => if ok then [.acquire what] else []
  | .access what => [.use what]
  | .free what => [.release what]
  | .createFile (.ok handle) => [.use .devicePath, .acquire (.file handle)]
  | .createFile (.error _) => [.use .devicePath]
  | .winusbInitialize file (.ok handle) => [.use (.file file), .acquire (.winusb handle)]
  | .winusbInitialize file (.error _) => [.use (.file file)]
  | .winusbFree handle => [.release (.winusb handle)]
  | .closeHandle handle => [.release (.file handle)]

/-- What a log does to the resources. -/
def events (calls : List SysCall) : List (Event Resource) := calls.flatMap SysCall.effects

/-- What the system answers about one enumerated interface: the error left by the size query, the
    size, whether the detail buffer can be had, the path of the detail query unless it fails, and
    whether the copy can be had. `stack` is what the matcher's buffer holds before it is written. -/
structure Interface where
  sizeError : UInt32
  requiredSize : UInt32
  detailAlloc : Bool
  detail : Option WPath
  pathAlloc : Bool
  stack : Vector UInt16 2048

/-- What the system answers on the way. An enumeration step answers `TRUE` as long as there is an
    interface with its index, and an index is a `DWORD`. -/
structure Env where
  classDevs : Bool
  interfaces : List Interface
  indexed : interfaces.length < 2 ^ 32
  deviceAlloc : Bool
  createFile : Except UInt32 Nat
  winusbInitialize : Except UInt32 Nat

def errorInsufficientBuffer : UInt32 := 122

/-- How a turn of the enumeration loop ends: with the next index, or with a return. -/
inductive Visit where
  | advance (next : UInt32) (calls : List SysCall)
  | leave (status : Status) (path : Option WPath) (calls : List SysCall)

/-- What a search returns. -/
structure Search where
  status : Status
  path : Option WPath
  calls : List SysCall

/-- What `ks959_get_device_path` returns and leaves behind its pointer. -/
structure PathReturn where
  status : Status
  outDevicePath : Option (Option WPath)
  calls : List SysCall

/-- One turn of the enumeration loop. -/
def visitInterface (vid pid : UInt16) (index : UInt32) (i : Interface) : Option Visit :=
  if i.sizeError ≠ errorInsufficientBuffer ∨ i.requiredSize = 0 then
    some (.advance (index + 1) [.querySize index])
  else if i.detailAlloc = false then
    some (.leave .errInternal none
      [.querySize index, .alloc (.detailData index) false, .destroyDeviceInfoList])
  else
    match i.detail with
    | none =>
      some (.advance (index + 1)
        [.querySize index, .alloc (.detailData index) true, .access (.detailData index),
          .queryDetail index false, .free (.detailData index)])
    | some path => do
      let found ← pathContainsVidPid i.stack (some path) vid pid
      if found = false then
        some (.advance (index + 1)
          [.querySize index, .alloc (.detailData index) true, .access (.detailData index),
            .queryDetail index true, .access (.detailData index), .free (.detailData index)])
      else if i.pathAlloc = false then
        some (.leave .errInternal none
          [.querySize index, .alloc (.detailData index) true, .access (.detailData index),
            .queryDetail index true, .access (.detailData index), .alloc .devicePath false,
            .free (.detailData index), .destroyDeviceInfoList])
      else
        -- `wcscpy` reads the detail buffer and fills the copy
        some (.leave .ok (some path)
          [.querySize index, .alloc (.detailData index) true, .access (.detailData index),
            .queryDetail index true, .access (.detailData index), .alloc .devicePath true,
            .access (.detailData index), .access .devicePath, .free (.detailData index),
            .destroyDeviceInfoList])

/-- A turn that does not return moves the index on by one. -/
lemma visitInterface_next {vid pid : UInt16} {index next : UInt32} {i : Interface}
    {calls : List SysCall} (visit : visitInterface vid pid index i = some (.advance next calls)) :
    next = index + 1 := by
  rw [visitInterface] at visit
  split at visit
  · cases visit
    rfl
  · split at visit
    · cases visit
    · cases answer : i.detail with
      | none =>
        rw [answer] at visit
        cases visit
        rfl
      | some path =>
        rw [answer] at visit
        obtain ⟨found, _, ended⟩ := Option.bind_eq_some_iff.mp visit
        split_ifs at ended
        · cases ended
          rfl
        · cases ended
        · cases ended

/-- The index does not wrap as long as there are interfaces. -/
lemma toNat_succ (env : Env) {index : UInt32} (lt : index.toNat < env.interfaces.length) :
    (index + 1).toNat = index.toNat + 1 := by
  have bound := env.indexed
  rw [UInt32.toNat_add, UInt32.toNat_one]
  omega

/-- The enumeration loop, from `index` on. -/
def enumLoop (env : Env) (vid pid : UInt16) (index : UInt32) : Option Search :=
  match _found : env.interfaces[index.toNat]? with
  | none =>
    some ⟨.errNoDevice, none, [.enumDeviceInterfaces index false, .destroyDeviceInfoList]⟩
  | some i =>
    match _visit : visitInterface vid pid index i with
    | none => none
    | some (.leave status path calls) =>
      some ⟨status, path, .enumDeviceInterfaces index true :: calls⟩
    | some (.advance next calls) => do
      let rest ← enumLoop env vid pid next
      some { rest with calls := .enumDeviceInterfaces index true :: calls ++ rest.calls }
termination_by env.interfaces.length - index.toNat
decreasing_by
  obtain ⟨lt, _⟩ := List.getElem?_eq_some_iff.mp _found
  rw [visitInterface_next _visit, toNat_succ env lt]
  omega

/-- `ks959_get_device_path`. -/
def getDevicePath (env : Env) (vid pid : UInt16) (outDevicePath : Option (Option WPath)) :
    Option PathReturn :=
  match outDevicePath with
  | none => some ⟨.errInvalidArg, none, []⟩
  | some _ =>
    if env.classDevs = false then
      some ⟨.errIo, some none, [.getClassDevs false]⟩
    else do
      let search ← enumLoop env vid pid 0
      some ⟨search.status, some search.path, .getClassDevs true :: search.calls⟩

variable {φ : Resource → Phase} {env : Env} {vid pid : UInt16} {index : UInt32} {i : Interface}
  {calls calls' : List SysCall}

/-- Without calls there are no events. -/
@[simp] lemma events_nil : events [] = [] := rfl

/-- The events of a call come before those of the calls after it. -/
@[simp] lemma events_cons {call : SysCall} :
    events (call :: calls) = call.effects ++ events calls := rfl

/-- The events of two sequences of calls in a row are those of the first, then of the second. -/
@[simp] lemma events_append : events (calls ++ calls') = events calls ++ events calls' :=
  List.flatMap_append

/-- The ledger before the turn `index` of the loop: only the list is held. -/
structure Searching (φ : Resource → Phase) (index : UInt32) : Prop where
  devInfo : φ .devInfo = .live
  ahead : ∀ j : UInt32, index.toNat ≤ j.toNat → φ (.detailData j) = .fresh
  idle : ∀ j, φ (.detailData j) ≠ .live
  devicePath : φ .devicePath = .fresh
  device : φ .device = .fresh
  file : ∀ h, φ (.file h) = .fresh
  winusb : ∀ h, φ (.winusb h) = .fresh

/-- The ledger after the search: only the copied path is held, if there is one. -/
structure Searched (φ : Resource → Phase) (path : Option WPath) : Prop where
  devInfo : φ .devInfo ≠ .live
  idle : ∀ j, φ (.detailData j) ≠ .live
  devicePath : φ .devicePath = if path.isSome then .live else .fresh
  device : φ .device = .fresh
  file : ∀ h, φ (.file h) = .fresh
  winusb : ∀ h, φ (.winusb h) = .fresh

/-- The matcher never faults. -/
lemma pathContainsVidPid_isSome (stack : Vector UInt16 2048) (path : WPath) (vid pid : UInt16) :
    ∃ found, pathContainsVidPid stack (some path) vid pid = some found :=
  ⟨_, pathContainsVidPid_eq stack path vid pid⟩

/-- What holds before a turn of the loop holds before any later one. -/
lemma Searching.mono (s : Searching φ index) {next : UInt32} (le : index.toNat ≤ next.toNat) :
    Searching φ next :=
  { s with ahead := fun j ahead => s.ahead j (le.trans ahead) }

/-- A turn that frees its buffer leaves the ledger ready for the turns after it. -/
lemma Searching.freed (s : Searching φ index) {next : UInt32} (lt : index.toNat < next.toNat) :
    Searching (Function.update φ (.detailData index) .freed) next where
  devInfo := by simp [s.devInfo]
  ahead j ahead := by
    have other : j ≠ index := by rintro rfl; omega
    simp [other, s.ahead j (by omega)]
  idle j := by
    rcases eq_or_ne j index with rfl | other
    · simp
    · simp [other, s.idle j]
  devicePath := by simp [s.devicePath]
  device := by simp [s.device]
  file := by simp [s.file]
  winusb := by simp [s.winusb]

/-- The search ends with nothing. -/
lemma Searching.fail (s : Searching φ index) :
    Searched (Function.update φ .devInfo .freed) none := by
  constructor <;> simp [s.idle, s.devicePath, s.device, s.file, s.winusb]

/-- The search ends with a copied path. -/
lemma Searching.succeed (s : Searching φ index) (path : WPath) :
    Searched (Function.update (Function.update φ .devicePath .live) .devInfo .freed)
      (some path) := by
  constructor <;> simp [s.idle, s.device, s.file, s.winusb]

/-- What one turn leaves on the ledger: a search that goes on, or one that is over. -/
inductive Visited (φ : Resource → Phase) (index : UInt32) : Option Visit → Prop where
  | advance (calls : List SysCall) (ψ : Resource → Phase)
      (booked : replay φ (events calls) = some ψ) (s : Searching ψ (index + 1)) :
      Visited φ index (some (.advance (index + 1) calls))
  | leave (status : Status) (path : Option WPath) (calls : List SysCall) (ψ : Resource → Phase)
      (booked : replay φ (events calls) = some ψ) (ended : Searched ψ path)
      (ok : status = .ok ↔ path.isSome) : Visited φ index (some (.leave status path calls))

/-- A turn of the loop on the ledger of a search. -/
lemma visitInterface_booked (vid pid : UInt16) (i : Interface) (s : Searching φ index)
    (lt : index.toNat < (index + 1).toNat) :
    Visited φ index (visitInterface vid pid index i) := by
  have devInfo := s.devInfo
  have detail := s.ahead index le_rfl
  have copy := s.devicePath
  rw [visitInterface]
  split
  · refine .advance _ φ ?_ (s.mono lt.le)
    simp [SysCall.effects, replay_use, devInfo]
  · split
    · refine .leave _ _ _ _ ?_ s.fail (by simp)
      simp [SysCall.effects, replay_use, replay_release, devInfo]
    · cases i.detail with
      | none =>
        refine .advance _ _ ?_ (s.freed lt)
        simp [SysCall.effects, replay_use, replay_acquire, replay_release, devInfo, detail]
      | some path =>
        obtain ⟨found, matched⟩ := pathContainsVidPid_isSome i.stack path vid pid
        simp only [matched, Option.bind_eq_bind, Option.bind_some]
        split_ifs
        · refine .advance _ _ ?_ (s.freed lt)
          simp [SysCall.effects, replay_use, replay_acquire, replay_release, devInfo, detail]
        · refine .leave _ _ _ _ ?_ (s.freed lt).fail (by simp)
          simp [SysCall.effects, replay_use, replay_acquire, replay_release, devInfo, detail]
        · have apart : Resource.detailData index ≠ .devicePath := Resource.noConfusion
          refine .leave _ _ _ _ ?_ ((s.freed lt).succeed path) (by simp)
          simp [SysCall.effects, replay_use, replay_acquire, replay_release, devInfo, detail, copy,
            Function.update_comm apart]

/-- Behind the last interface the loop ends without a device. -/
lemma enumLoop_stop (stop : env.interfaces[index.toNat]? = none) :
    enumLoop env vid pid index
      = some ⟨.errNoDevice, none, [.enumDeviceInterfaces index false, .destroyDeviceInfoList]⟩ := by
  rw [enumLoop, stop]

/-- A turn that leaves the loop ends it. -/
lemma enumLoop_leave {status : Status} {path : Option WPath}
    (found : env.interfaces[index.toNat]? = some i)
    (visit : visitInterface vid pid index i = some (.leave status path calls)) :
    enumLoop env vid pid index
      = some ⟨status, path, .enumDeviceInterfaces index true :: calls⟩ := by
  rw [enumLoop, found]
  dsimp only
  rw [visit]

/-- A turn that does not leave the loop is followed by the rest of it. -/
lemma enumLoop_advance {next : UInt32} (found : env.interfaces[index.toNat]? = some i)
    (visit : visitInterface vid pid index i = some (.advance next calls)) :
    enumLoop env vid pid index
      = (enumLoop env vid pid next).map fun rest =>
          { rest with calls := .enumDeviceInterfaces index true :: calls ++ rest.calls } := by
  rw [enumLoop, found]
  dsimp only
  rw [visit]
  exact Option.map_eq_bind.symm

/-- Whatever the system answers, the search gives back the list and every detail buffer. -/
lemma enumLoop_booked (env : Env) (vid pid : UInt16) (s : Searching φ index) :
    ∃ search ψ, enumLoop env vid pid index = some search ∧
      replay φ (events search.calls) = some ψ ∧ Searched ψ search.path ∧
      (search.status = .ok ↔ search.path.isSome) := by
  have visited {index : UInt32} {i : Interface} {φ : Resource → Phase} (s : Searching φ index)
      (found : env.interfaces[index.toNat]? = some i) :
      Visited φ index (visitInterface vid pid index i) := by
    obtain ⟨lt, _⟩ := List.getElem?_eq_some_iff.mp found
    refine visitInterface_booked vid pid i s ?_
    rw [toNat_succ env lt]
    exact Nat.lt_succ_self _
  induction index using enumLoop.induct env vid pid generalizing φ with
  | case1 index stop =>
    refine ⟨_, _, enumLoop_stop stop, ?_, s.fail, by simp⟩
    simp [SysCall.effects, replay_use, replay_release, s.devInfo]
  | case2 index i found fault =>
    have turn := visited s found
    rw [fault] at turn
    cases turn
  | case3 index i found status path calls visit =>
    have turn := visited s found
    rw [visit] at turn
    cases turn with
    | leave _ _ _ ψ booked ended ok =>
      refine ⟨_, ψ, enumLoop_leave found visit, ?_, ended, ok⟩
      simp [SysCall.effects, replay_use, s.devInfo, booked]
  | case4 index i found next calls visit ih =>
    have turn := visited s found
    rw [visit] at turn
    cases turn with
    | advance _ χ booked s' =>
      obtain ⟨rest, ψ, search, replayed, ended, ok⟩ := ih s'
      refine ⟨{ rest with calls := .enumDeviceInterfaces index true :: calls ++ rest.calls }, ψ,
        ?_, ?_, ended, ok⟩
      · rw [enumLoop_advance found visit, search, Option.map_some]
      · simp [SysCall.effects, replay_use, s.devInfo, replay_append, booked, replayed]

/-- What `getDevicePath` leaves on the ledger of a program that has not acquired anything. -/
lemma getDevicePath_booked (env : Env) (vid pid : UInt16) (out : Option WPath) :
    ∃ search ψ path, getDevicePath env vid pid (some out) = some search ∧
      search.outDevicePath = some path ∧ replay empty (events search.calls) = some ψ ∧
      Searched ψ path ∧ (search.status = .ok ↔ path.isSome) := by
  rw [getDevicePath]
  split_ifs with listed
  · refine ⟨_, empty, none, rfl, rfl, rfl, ?_, by simp⟩
    constructor <;> simp [empty]
  · have s : Searching (Function.update (empty (R := Resource)) .devInfo .live) 0 := by
      constructor <;> simp [empty]
    obtain ⟨search, ψ, run, booked, ended, ok⟩ := enumLoop_booked env vid pid s
    refine ⟨_, ψ, search.path, by rw [run]; rfl, rfl, ?_, ended, ok⟩
    have fresh : empty (R := Resource) .devInfo = .fresh := rfl
    simp [SysCall.effects, replay_acquire fresh, booked]

end Ks959.Device
