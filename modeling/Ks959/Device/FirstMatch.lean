import Ks959.Device.Discovery

/-!
# The search finds the first match (`ks959_device.c`)

An interface `Matches` when its path can be read and carries the identifier. With memory for its
buffers a turn of the loop leaves with the path of a match and moves on from everything else
(`visitInterface_turned`), so the loop is `List.findSome?` on the interfaces still ahead
(`enumLoop_first`), and it asks at most once more than there are interfaces.
-/

namespace Ks959.Device

/-- The path of an interface whose size query and whose detail query answer. -/
def Interface.readable (i : Interface) : Option WPath :=
  if i.sizeError ≠ errorInsufficientBuffer ∨ i.requiredSize = 0 then none else i.detail

/-- The detail of the interface can be read and its path satisfies the matcher. -/
def Interface.Matches (vid pid : UInt16) (i : Interface) (path : WPath) : Prop :=
  i.readable = some path ∧ pathContainsVidPid i.stack (some path) vid pid = some true

/-- `path` is that of the first interface that matches. -/
def FirstMatch (vid pid : UInt16) (interfaces : List Interface) (path : WPath) : Prop :=
  ∃ before i after, interfaces = before ++ i :: after ∧ i.Matches vid pid path ∧
    ∀ j ∈ before, ∀ p, ¬ j.Matches vid pid p

/-- There is memory for every buffer of the search. -/
def Env.Allocating (env : Env) : Prop :=
  ∀ i ∈ env.interfaces, i.detailAlloc = true ∧ i.pathAlloc = true

def SysCall.isEnumeration : SysCall → Bool
  | .enumDeviceInterfaces _ _ => true
  | _ => false

/-- How often the next interface has been asked for. -/
def enumerations (calls : List SysCall) : Nat := calls.countP SysCall.isEnumeration

/-- The identifier is in the part of the path that the matcher looks at. -/
def carries (vid pid : UInt16) (path : WPath) : Bool :=
  (wcsstr (pattern vid pid) ((path.chars.take 2047).map foldCase)).isSome

/-- The path that the search takes an interface for. -/
def Interface.hit (vid pid : UInt16) (i : Interface) : Option WPath :=
  i.readable.filter (carries vid pid)

variable {env : Env} {vid pid : UInt16} {index : UInt32} {i : Interface} {path : WPath}
  {interfaces : List Interface}

/-- An interface is a hit exactly when it matches. -/
lemma hit_eq_some_iff : i.hit vid pid = some path ↔ i.Matches vid pid path := by
  rw [Interface.hit, Interface.Matches, pathContainsVidPid_eq, Option.some.injEq]
  exact Option.filter_eq_some_iff

/-- An interface is no hit exactly when it matches with no path. -/
lemma hit_eq_none_iff : i.hit vid pid = none ↔ ∀ path, ¬ i.Matches vid pid path := by
  rw [Option.eq_none_iff_forall_ne_some]
  exact forall_congr' fun path => not_congr hit_eq_some_iff

/-- The first hit of a list is its first match. -/
lemma firstMatch_iff :
    interfaces.findSome? (Interface.hit vid pid) = some path ↔
      FirstMatch vid pid interfaces path := by
  rw [List.findSome?_eq_some_iff, FirstMatch]
  simp only [hit_eq_some_iff, hit_eq_none_iff]

/-- A list without a hit is a list without a match. -/
lemma no_match_iff :
    interfaces.findSome? (Interface.hit vid pid) = none ↔
      ∀ i ∈ interfaces, ∀ path, ¬ i.Matches vid pid path := by
  rw [List.findSome?_eq_none_iff]
  simp only [hit_eq_none_iff]

/-- What a turn of the loop does when its buffers can be had. -/
inductive Turned (vid pid : UInt16) (index : UInt32) (i : Interface) : Option Visit → Prop where
  | miss (calls : List SysCall) (miss : i.hit vid pid = none) (quiet : enumerations calls = 0) :
      Turned vid pid index i (some (.advance (index + 1) calls))
  | hit (path : WPath) (calls : List SysCall) (hit : i.hit vid pid = some path)
      (quiet : enumerations calls = 0) :
      Turned vid pid index i (some (.leave .ok (some path) calls))

/-- Every way of skipping an interface moves the index on by one, and a match is taken. -/
lemma visitInterface_turned (vid pid : UInt16) (index : UInt32) (detailAlloc : i.detailAlloc = true)
    (pathAlloc : i.pathAlloc = true) :
    Turned vid pid index i (visitInterface vid pid index i) := by
  have alloc : ¬ i.detailAlloc = false := by rw [detailAlloc]; decide
  have copy : ¬ i.pathAlloc = false := by rw [pathAlloc]; decide
  rw [visitInterface]
  by_cases unsized : i.sizeError ≠ errorInsufficientBuffer ∨ i.requiredSize = 0
  · rw [if_pos unsized]
    refine .miss _ ?_ rfl
    rw [Interface.hit, Interface.readable, if_pos unsized]
    rfl
  · rw [if_neg unsized, if_neg alloc]
    have readable : i.readable = i.detail := if_neg unsized
    cases answer : i.detail with
    | none =>
      refine .miss _ ?_ rfl
      rw [Interface.hit, readable, answer]
      rfl
    | some path =>
      have matcher := pathContainsVidPid_eq i.stack path vid pid
      cases found : carries vid pid path with
      | false =>
        rw [← carries, found] at matcher
        simp only [matcher, Option.bind_eq_bind, Option.bind_some, if_true]
        refine .miss _ ?_ rfl
        rw [Interface.hit, readable, answer]
        exact Option.filter_some_neg found
      | true =>
        rw [← carries, found] at matcher
        simp only [matcher, Option.bind_eq_bind, Option.bind_some, if_neg copy]
        refine .hit path _ ?_ rfl
        rw [Interface.hit, readable, answer]
        exact Option.filter_some_pos found

/-- A turn of the loop asks for one interface. -/
lemma enumerations_cons (index : UInt32) (ok : Bool) {calls : List SysCall} (rest : List SysCall)
    (quiet : enumerations calls = 0) :
    enumerations (.enumDeviceInterfaces index ok :: calls ++ rest) = enumerations rest + 1 := by
  unfold enumerations at quiet ⊢
  rw [List.cons_append, List.countP_cons, List.countP_append, quiet, Nat.zero_add]
  rfl

/-- The loop from `index` on returns the first match that is still ahead. -/
lemma enumLoop_first (vid pid : UInt16) (allocs : env.Allocating)
    (le : index.toNat ≤ env.interfaces.length) :
    ∃ search, enumLoop env vid pid index = some search ∧
      search.path = (env.interfaces.drop index.toNat).findSome? (Interface.hit vid pid) ∧
      search.status = (if search.path.isSome then .ok else .errNoDevice) ∧
      index.toNat + enumerations search.calls ≤ env.interfaces.length + 1 := by
  have turned {index : UInt32} {i : Interface} (found : env.interfaces[index.toNat]? = some i) :
      Turned vid pid index i (visitInterface vid pid index i) := by
    obtain ⟨detailAlloc, pathAlloc⟩ := allocs i (List.mem_of_getElem? found)
    exact visitInterface_turned vid pid index detailAlloc pathAlloc
  have ahead {index : UInt32} {i : Interface} (found : env.interfaces[index.toNat]? = some i) :
      env.interfaces.drop index.toNat = i :: env.interfaces.drop (index.toNat + 1) := by
    obtain ⟨lt, rfl⟩ := List.getElem?_eq_some_iff.mp found
    exact List.drop_eq_getElem_cons lt
  induction index using enumLoop.induct env vid pid with
  | case1 index stop =>
    have behind := List.getElem?_eq_none_iff.mp stop
    refine ⟨_, enumLoop_stop stop, ?_, rfl, ?_⟩
    · rw [List.drop_eq_nil_of_le behind]
      rfl
    · have one : enumerations [.enumDeviceInterfaces index false, .destroyDeviceInfoList] = 1 := rfl
      dsimp only
      omega
  | case2 index i found fault =>
    have turn := turned found
    rw [fault] at turn
    cases turn
  | case3 index i found status path calls visit =>
    have turn := turned found
    rw [visit] at turn
    obtain ⟨lt, _⟩ := List.getElem?_eq_some_iff.mp found
    cases turn with
    | hit path _ hit quiet =>
      refine ⟨_, enumLoop_leave found visit, ?_, rfl, ?_⟩
      · rw [ahead found, List.findSome?_cons, hit]
      · have one := enumerations_cons index true [] quiet
        rw [List.append_nil] at one
        dsimp only
        rw [one]
        have zero : enumerations [] = 0 := rfl
        omega
  | case4 index i found next calls visit ih =>
    have turn := turned found
    rw [visit] at turn
    obtain ⟨lt, _⟩ := List.getElem?_eq_some_iff.mp found
    cases turn with
    | miss _ miss quiet =>
      have step := toNat_succ env lt
      obtain ⟨rest, run, path, status, count⟩ := ih (by omega)
      refine ⟨{ rest with
        calls := .enumDeviceInterfaces index true :: calls ++ rest.calls }, ?_, ?_, status, ?_⟩
      · rw [enumLoop_advance found visit, run, Option.map_some]
      · rw [ahead found, List.findSome?_cons, miss, path, step]
      · dsimp only
        have more := enumerations_cons index true rest.calls quiet
        omega

/-- A search whose list and buffers can be had. -/
lemma getDevicePath_first (env : Env) (vid pid : UInt16) (out : Option WPath)
    (listed : env.classDevs = true) (allocs : env.Allocating) :
    ∃ r, getDevicePath env vid pid (some out) = some r ∧
      r.outDevicePath = some (env.interfaces.findSome? (Interface.hit vid pid)) ∧
      r.status = (if (env.interfaces.findSome? (Interface.hit vid pid)).isSome then .ok
        else .errNoDevice) ∧
      enumerations r.calls ≤ env.interfaces.length + 1 := by
  have start : (0 : UInt32).toNat ≤ env.interfaces.length := Nat.zero_le _
  obtain ⟨search, run, path, status, count⟩ := enumLoop_first vid pid allocs start
  have zero : (0 : UInt32).toNat = 0 := rfl
  rw [zero, List.drop_zero] at path
  rw [zero, Nat.zero_add] at count
  have open_list : ¬ env.classDevs = false := by rw [listed]; decide
  refine ⟨⟨search.status, some search.path, .getClassDevs true :: search.calls⟩, ?_, ?_, ?_, count⟩
  · rw [getDevicePath, if_neg open_list, run]
    rfl
  · rw [path]
  · rw [← path, status]

end Ks959.Device
