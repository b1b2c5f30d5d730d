import Ks959.Device.FirstMatch

/-!
# Discovery in the interrupt monitor (`ks959-monitor.c`)

The monitor carries its own search, for the one identifier it knows. It leaves its loop by `break`
where the library returns, and gives the list back in one place behind the loop. Given the same
answers it makes the same calls and returns the same path as the library
(`getKs959DevicePath_eq`), so both find the first match (`discovery_first_match`).
-/

namespace Ks959.Tools
open Device

/-- How a turn of the monitor's loop ends: with the next index, or with a `break`. -/
inductive Turn where
  | advance (next : UInt32) (calls : List SysCall)
  | stop (found : Bool) (path : Option WPath) (calls : List SysCall)

/-- What `get_ks959_device_path` returns and leaves behind its pointer. -/
structure FoundPath where
  found : Bool
  outDevicePath : Option (Option WPath)
  calls : List SysCall

/-- What the loop leaves behind. -/
structure LoopEnd where
  found : Bool
  path : Option WPath
  calls : List SysCall

/-- `path_contains_vid_pid`, which has no test for a null pointer. -/
def monitorPathContainsVidPid (stack : Vector UInt16 2048) (devicePath : WPath)
    (vid pid : UInt16) : Option Bool :=
  pathContainsVidPid stack (some devicePath) vid pid

/-- One turn of the loop of `get_ks959_device_path`. -/
def monitorTurn (index : UInt32) (i : Interface) : Option Turn :=
  if i.sizeError ≠ errorInsufficientBuffer ∨ i.requiredSize = 0 then
    some (.advance (index + 1) [.querySize index])
  else if i.detailAlloc = false then
    some (.stop false none [.querySize index, .alloc (.detailData index) false])
  else
    match i.detail with
    | none =>
      some (.advance (index + 1)
        [.querySize index, .alloc (.detailData index) true, .access (.detailData index),
          .queryDetail index false, .free (.detailData index)])
    | some path => do
      let carried ← monitorPathContainsVidPid i.stack path usbVid usbPid
      if carried = false then
        some (.advance (index + 1)
          [.querySize index, .alloc (.detailData index) true, .access (.detailData index),
            .queryDetail index true, .access (.detailData index), .free (.detailData index)])
      else if i.pathAlloc = false then
        some (.stop false none
          [.querySize index, .alloc (.detailData index) true, .access (.detailData index),
            .queryDetail index true, .access (.detailData index), .alloc .devicePath false,
            .free (.detailData index)])
      else
        some (.stop true (some path)
          [.querySize index, .alloc (.detailData index) true, .access (.detailData index),
            .queryDetail index true, .access (.detailData index), .alloc .devicePath true,
            .access (.detailData index), .access .devicePath, .free (.detailData index)])

/-- The library's turn, with the list given back behind the loop. -/
inductive SameTurn : Option Visit → Option Turn → Prop where
  | advance (next : UInt32) (calls : List SysCall) :
      SameTurn (some (.advance next calls)) (some (.advance next calls))
  | stop (status : Status) (path : Option WPath) (calls : List SysCall) :
      SameTurn (some (.leave status path (calls ++ [.destroyDeviceInfoList])))
        (some (.stop (status == .ok) path calls))

/-- Given the same answers, a turn of the monitor does what a turn of the library does. -/
lemma sameTurn (index : UInt32) (i : Interface) :
    SameTurn (visitInterface usbVid usbPid index i) (monitorTurn index i) := by
  rw [visitInterface, monitorTurn]
  by_cases unsized : i.sizeError ≠ errorInsufficientBuffer ∨ i.requiredSize = 0
  · rw [if_pos unsized, if_pos unsized]
    exact .advance _ _
  · rw [if_neg unsized, if_neg unsized]
    by_cases detail : i.detailAlloc = false
    · rw [if_pos detail, if_pos detail]
      exact .stop .errInternal none [.querySize index, .alloc (.detailData index) false]
    · rw [if_neg detail, if_neg detail]
      cases i.detail with
      | none => exact .advance _ _
      | some path =>
        obtain ⟨found, matcher⟩ := pathContainsVidPid_isSome i.stack path usbVid usbPid
        simp only [monitorPathContainsVidPid, matcher, Option.bind_eq_bind, Option.bind_some]
        cases found with
        | false => exact .advance _ _
        | true =>
          by_cases copy : i.pathAlloc = false
          · simp only [copy]
            exact .stop .errInternal none [_, _, _, _, _, _, _]
          · simp only [copy]
            exact .stop .ok (some path) [_, _, _, _, _, _, _, _, _]

/-- A turn that does not end the loop goes on with the next index. -/
lemma monitorTurn_next {index next : UInt32} {i : Interface} {calls : List SysCall}
    (turn : monitorTurn index i = some (.advance next calls)) : next = index + 1 := by
  have same := sameTurn index i
  rw [turn] at same
  generalize visit : visitInterface usbVid usbPid index i = v at same
  cases same
  exact visitInterface_next visit

/-- The loop of `get_ks959_device_path`, from `index` on. -/
def monitorLoop (env : Env) (index : UInt32) : Option LoopEnd :=
  match _found : env.interfaces[index.toNat]? with
  | none => some ⟨false, none, [.enumDeviceInterfaces index false]⟩
  | some i =>
    match _turn : monitorTurn index i with
    | none => none
    | some (.stop found path calls) =>
      some ⟨found, path, .enumDeviceInterfaces index true :: calls⟩
    | some (.advance next calls) => do
      let rest ← monitorLoop env next
      some { rest with calls := .enumDeviceInterfaces index true :: calls ++ rest.calls }
termination_by env.interfaces.length - index.toNat
decreasing_by
  obtain ⟨lt, _⟩ := List.getElem?_eq_some_iff.mp _found
  rw [monitorTurn_next _turn, toNat_succ env lt]
  omega

/-- `get_ks959_device_path` of `ks959-monitor.c`. -/
def getKs959DevicePath (env : Env) (outDevicePath : Option (Option WPath)) : Option FoundPath :=
  match outDevicePath with
  | none => some ⟨false, none, []⟩
  | some _ =>
    if env.classDevs = false then
      some ⟨false, some none, [.getClassDevs false]⟩
    else do
      let loop ← monitorLoop env 0
      some ⟨loop.found, some loop.path,
        .getClassDevs true :: loop.calls ++ [.destroyDeviceInfoList]⟩

variable {env : Env} {index : UInt32} {i : Interface} {calls : List SysCall}

/-- Behind the last interface the loop ends without a path. -/
lemma monitorLoop_none (stop : env.interfaces[index.toNat]? = none) :
    monitorLoop env index = some ⟨false, none, [.enumDeviceInterfaces index false]⟩ := by
  rw [monitorLoop, stop]

/-- A turn that ends the loop gives it its result. -/
lemma monitorLoop_stop {found : Bool} {path : Option WPath}
    (here : env.interfaces[index.toNat]? = some i)
    (turn : monitorTurn index i = some (.stop found path calls)) :
    monitorLoop env index = some ⟨found, path, .enumDeviceInterfaces index true :: calls⟩ := by
  rw [monitorLoop, here]
  dsimp only
  rw [turn]

/-- A turn that does not end the loop is followed by the rest of it. -/
lemma monitorLoop_advance {next : UInt32} (here : env.interfaces[index.toNat]? = some i)
    (turn : monitorTurn index i = some (.advance next calls)) :
    monitorLoop env index
      = (monitorLoop env next).map fun rest =>
          { rest with calls := .enumDeviceInterfaces index true :: calls ++ rest.calls } := by
  rw [monitorLoop, here]
  dsimp only
  rw [turn]
  exact Option.map_eq_bind.symm

/-- The monitor's loop is the library's, with the list still to be given back. -/
lemma monitorLoop_eq (env : Env) (index : UInt32) :
    ∃ status loop, monitorLoop env index = some loop ∧
      enumLoop env usbVid usbPid index
        = some ⟨status, loop.path, loop.calls ++ [.destroyDeviceInfoList]⟩ ∧
      loop.found = (status == .ok) := by
  induction index using enumLoop.induct env usbVid usbPid with
  | case1 index stop => exact ⟨_, _, monitorLoop_none stop, enumLoop_stop stop, rfl⟩
  | case2 index i found fault =>
    have same := sameTurn index i
    rw [fault] at same
    cases same
  | case3 index i found status path calls visit =>
    have same := sameTurn index i
    rw [visit] at same
    generalize turn : monitorTurn index i = t at same
    cases same with
    | stop _ _ calls => exact ⟨_, _, monitorLoop_stop found turn, enumLoop_leave found visit, rfl⟩
  | case4 index i found next calls visit ih =>
    have same := sameTurn index i
    rw [visit] at same
    generalize turn : monitorTurn index i = t at same
    cases same with
    | advance =>
      obtain ⟨status, loop, monitor, library, ok⟩ := ih
      refine ⟨status, { loop with
        calls := .enumDeviceInterfaces index true :: calls ++ loop.calls }, ?_, ?_, ok⟩
      · rw [monitorLoop_advance found turn, monitor, Option.map_some]
      · rw [enumLoop_advance found visit, library, Option.map_some]
        simp

/-- Given the same answers, the monitor makes the calls that the library makes for its identifier,
    and hands out the same path. -/
lemma getKs959DevicePath_eq (env : Env) (out : Option WPath) :
    getKs959DevicePath env (some out) = (getDevicePath env usbVid usbPid (some out)).map
      fun r => ⟨r.status == .ok, r.outDevicePath, r.calls⟩ := by
  obtain ⟨status, loop, monitor, library, ok⟩ := monitorLoop_eq env 0
  by_cases listed : env.classDevs = false
  · rw [getKs959DevicePath, getDevicePath, if_pos listed, if_pos listed]
    rfl
  · rw [getKs959DevicePath, getDevicePath, if_neg listed, if_neg listed, monitor, library]
    simp [ok]

/-- A search has handed out the path of the first match, or found that there is none. `ok` and
    `fail` are the two values it may return. -/
structure FirstMatchReturned (vid pid : UInt16) (interfaces : List Interface) (ok fail : Prop)
    (outDevicePath : Option (Option WPath)) : Prop where
  either : ok ∨ fail
  found (path : WPath) :
    ok ∧ outDevicePath = some (some path) ↔ FirstMatch vid pid interfaces path
  nothing :
    fail ∧ outDevicePath = some none ↔ ∀ i ∈ interfaces, ∀ path, ¬ i.Matches vid pid path

/-- A search that returns the first hit returns the first match. -/
lemma firstMatchReturned {vid pid : UInt16} {interfaces : List Interface} {ok fail : Prop}
    (first : ok ↔ (interfaces.findSome? (Interface.hit vid pid)).isSome) (otherwise : fail ↔ ¬ ok) :
    FirstMatchReturned vid pid interfaces ok fail
      (some (interfaces.findSome? (Interface.hit vid pid))) where
  either := by
    rw [otherwise]
    exact em ok
  found path := by
    rw [first, ← firstMatch_iff, Option.some.injEq]
    refine ⟨And.right, fun hit => ⟨?_, hit⟩⟩
    rw [hit]
    rfl
  nothing := by
    rw [otherwise, first, ← no_match_iff, Option.some.injEq]
    refine ⟨And.right, fun miss => ⟨?_, miss⟩⟩
    rw [miss]
    exact Bool.false_ne_true

/-- With memory for its buffers, discovery returns the path of the first interface that matches, and
    fails exactly when there is none; so does the monitor's. -/
theorem discovery_first_match (env : Env) (listed : env.classDevs = true)
    (allocs : env.Allocating) (vid pid : UInt16) (out : Option WPath) :
    (∃ r, getDevicePath env vid pid (some out) = some r ∧
      enumerations r.calls ≤ env.interfaces.length + 1 ∧
      FirstMatchReturned vid pid env.interfaces (r.status = .ok) (r.status = .errNoDevice)
        r.outDevicePath) ∧
    ∃ m, getKs959DevicePath env (some out) = some m ∧
      enumerations m.calls ≤ env.interfaces.length + 1 ∧
      FirstMatchReturned usbVid usbPid env.interfaces (m.found = true) (m.found = false)
        m.outDevicePath := by
  constructor
  · obtain ⟨r, run, path, status, count⟩ := getDevicePath_first env vid pid out listed allocs
    refine ⟨r, run, count, ?_⟩
    rw [path]
    apply firstMatchReturned
    · rw [status]
      split_ifs with hit <;> simp [hit]
    · rw [status]
      split_ifs <;> decide
  · obtain ⟨r, run, path, status, count⟩ := getDevicePath_first env usbVid usbPid out listed allocs
    refine ⟨⟨r.status == .ok, r.outDevicePath, r.calls⟩, ?_, count, ?_⟩
    · rw [getKs959DevicePath_eq, run, Option.map_some]
    · rw [path]
      apply firstMatchReturned
      · rw [status]
        split_ifs with hit <;> simp [hit]
      · exact Bool.not_eq_true _ ▸ Iff.rfl

/-- A path that is nothing but the pattern that is searched for. -/
def patternPath : WPath := ⟨pattern usbVid usbPid, by decide⟩

/-- An interface that cannot be read. -/
def muteInterface : Interface := ⟨5, 0, true, none, true, Vector.replicate 2048 0⟩

/-- The interface of the dongle. -/
def dongleInterface : Interface :=
  ⟨errorInsufficientBuffer, 64, true, some patternPath, true, Vector.replicate 2048 0⟩

/-- A system in which the dongle is the second of three interfaces. -/
def secondAttached : Env :=
  ⟨true, [muteInterface, dongleInterface, muteInterface], by decide, true, .ok 1, .ok 2⟩

/-- An interface that cannot be read before the dongle, and one behind it. -/
theorem discovery_second_interface :
    ∃ (env : Env) (path : WPath) (r : PathReturn) (m : FoundPath),
      path.chars = pattern usbVid usbPid ∧ env.interfaces.length = 3 ∧
      getDevicePath env usbVid usbPid (some none) = some r ∧ r.status = .ok ∧
      r.outDevicePath = some (some path) ∧ getKs959DevicePath env (some none) = some m ∧
      m.found = true ∧ m.outDevicePath = some (some path) := by
  have allocs : secondAttached.Allocating := by
    unfold Env.Allocating
    simp [secondAttached, muteInterface, dongleInterface]
  have matched : dongleInterface.Matches usbVid usbPid patternPath := by
    refine ⟨rfl, ?_⟩
    rw [pathContainsVidPid_eq]
    decide
  have unread (p : WPath) : ¬ muteInterface.Matches usbVid usbPid p := fun m => by cases m.1
  have first : FirstMatch usbVid usbPid secondAttached.interfaces patternPath := by
    refine ⟨[muteInterface], dongleInterface, [muteInterface], rfl, matched, ?_⟩
    intro j mem p
    rw [List.mem_singleton.mp mem]
    exact unread p
  obtain ⟨⟨r, library, _, returned⟩, m, monitor, _, returned'⟩ :=
    discovery_first_match secondAttached rfl allocs usbVid usbPid none
  obtain ⟨ok, out⟩ := (returned.found patternPath).mpr first
  obtain ⟨found, out'⟩ := (returned'.found patternPath).mpr first
  exact ⟨secondAttached, patternPath, r, m, rfl, rfl, library, ok, out, monitor, found, out'⟩

end Ks959.Tools
