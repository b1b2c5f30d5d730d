import Ks959.Lib.Memory

/-!
# Matching a device path (`ks959_device.c`)

`pathContainsVidPid` folds a path into a buffer of 2048 characters and looks for the identifier
there. The path and the buffer are objects of a memory of wide characters, every access is checked,
and the buffer starts with whatever the stack held. `pathContainsVidPid_eq` says what comes out: no
access faults, and the identifier is searched in the first 2047 characters, folded to lower case.
-/

namespace Ks959.Device
open CMemory

/-- A NUL-terminated wide string, written without its terminator. -/
structure WPath where
  chars : List UInt16
  noNul : 0 ∉ chars
deriving DecidableEq

/-- The cells a NUL-terminated string takes. -/
def WPath.cells (path : WPath) : List UInt16 := path.chars ++ [0]

/-- The two objects the matcher works on. -/
inductive PathObject where
  | devicePath
  | lowerPath
deriving DecidableEq

/-- The digit `d` of the conversion `%x`. -/
def hexDigit (d : Nat) : UInt16 :=
  if d < 10 then UInt16.ofNat (0x30 + d) else UInt16.ofNat (0x61 + (d - 10))

/-- The conversion `%04x` of a 16-bit number. -/
def formatHex4 (n : UInt16) : List UInt16 :=
  [12, 8, 4, 0].map fun shift => hexDigit (n.toNat >>> shift % 16)

/-- A narrow literal as a wide string. -/
def wide (cs : List Char) : List UInt16 := cs.map fun c => UInt16.ofNat c.toNat

/-- What `_snwprintf` leaves in `pattern`, `vid_%04x&pid_%04x`. -/
def pattern (vid pid : UInt16) : List UInt16 :=
  wide ['v', 'i', 'd', '_'] ++ formatHex4 vid ++ wide ['&', 'p', 'i', 'd', '_'] ++ formatHex4 pid

/-- Fold an ASCII capital to its small letter. -/
def foldCase (c : UInt16) : UInt16 :=
  if 0x41 ≤ c ∧ c ≤ 0x5A then c - 0x41 + 0x61 else c

/-- The string at the start of an object. -/
def cString (cells : List UInt16) : List UInt16 := cells.takeWhile (· ≠ 0)

/-- `wcsstr`: the position of the first occurrence. -/
def wcsstr (pat : List UInt16) : List UInt16 → Option Nat
  | [] => if pat.isPrefixOf [] then some 0 else none
  | c :: cs => if pat.isPrefixOf (c :: cs) then some 0 else (wcsstr pat cs).map (· + 1)

/-- The folding loop; `left` characters still fit into the buffer besides the terminator. -/
def foldLoop : (left i : Nat) → Mem PathObject UInt16 → Option (Nat × Mem PathObject UInt16)
  | 0, i, mem => do
    -- the condition reads the character before it compares the index
    let _ ← mem.load .devicePath i
    some (i, mem)
  | left + 1, i, mem => do
    let c ← mem.load .devicePath i
    if c = 0 then
      some (i, mem)
    else do
      let mem ← mem.store .lowerPath i (foldCase c)
      foldLoop left (i + 1) mem

/-- `ks959_path_contains_vid_pid`; `stack` is what `lower_path` holds before it is written. -/
def pathContainsVidPid (stack : Vector UInt16 2048) (devicePath : Option WPath)
    (vid pid : UInt16) : Option Bool :=
  match devicePath with
  | none => some false
  | some path => do
    let mem : Mem PathObject UInt16
      | .devicePath => path.cells
      | .lowerPath => stack.toList
    let (i, mem) ← foldLoop (2048 - 1) 0 mem
    let mem ← mem.store .lowerPath i 0
    some (wcsstr (pattern vid pid) (cString (mem .lowerPath))).isSome

variable {m : Mem PathObject UInt16} {left i : Nat} {cs ys : List UInt16} {c : UInt16}

/-- Folding makes no terminator. -/
lemma foldCase_ne_zero (ne : c ≠ 0) : foldCase c ≠ 0 := by
  rw [foldCase]
  split_ifs with capital
  · obtain ⟨low, high⟩ := capital
    intro zero
    have folded := congrArg UInt16.toNat zero
    rw [UInt16.toNat_add, UInt16.toNat_sub_of_le _ _ low] at folded
    rw [UInt16.le_iff_toNat_le] at low high
    simp at low high folded
    omega
  · exact ne

/-- The string behind a terminated splice. -/
lemma cString_splice {zs : List UInt16} (noNul : 0 ∉ ys) : cString (ys ++ [0] ++ zs) = ys := by
  induction ys with
  | nil => rfl
  | cons y ys ih =>
    obtain ⟨head, tail⟩ := not_or.mp (mt List.mem_cons.mpr noNul)
    have kept := ih tail
    rw [cString] at kept ⊢
    rw [List.cons_append, List.cons_append, List.takeWhile_cons_of_pos, kept]
    exact decide_eq_true (Ne.symm head)

/-- The loop in mid-run: `ys` is written, the characters `cs` are still to be read. -/
lemma foldLoop_splice (room : ys.length + left < (m .lowerPath).length)
    (unread : m.Unread .devicePath ys.length (cs ++ [0])) (noNul : 0 ∉ cs) :
    foldLoop left ys.length (m.splice .lowerPath ys)
      = some ((ys ++ (cs.take left).map foldCase).length,
          m.splice .lowerPath (ys ++ (cs.take left).map foldCase)) := by
  have apart : PathObject.devicePath = .lowerPath → ys.length ≤ ys.length := fun _ => le_rfl
  -- the index of the loop is the length of what it has written
  induction left generalizing ys cs with
  | zero =>
    have read : ∃ c, m.load .devicePath ys.length = some c := by
      cases cs with
      | nil => exact ⟨0, unread.load⟩
      | cons c cs => exact ⟨c, unread.load⟩
    obtain ⟨c, read⟩ := read
    simp [foldLoop, Mem.load_splice apart, read]
  | succ left ih =>
    cases cs with
    | nil =>
      have read : m.load .devicePath ys.length = some 0 := unread.load
      simp [foldLoop, Mem.load_splice apart, read]
    | cons c cs =>
      have read : m.load .devicePath ys.length = some c := unread.load
      obtain ⟨nonzero, rest⟩ := not_or.mp (mt List.mem_cons.mpr noNul)
      have write : (m.splice .lowerPath ys).store .lowerPath ys.length (foldCase c)
          = some (m.splice .lowerPath (ys ++ [foldCase c])) := Mem.store_splice (by omega)
      have len : (ys ++ [foldCase c]).length = ys.length + 1 := List.length_append
      have behind : m.Unread .devicePath (ys ++ [foldCase c]).length (cs ++ [0]) := by
        rw [len]
        exact unread.tail
      have run := ih (by omega) behind rest (fun _ => le_rfl)
      rw [len] at run
      simp [foldLoop, Mem.load_splice apart, read, Ne.symm nonzero, write, run]

/-- What the call leaves in the buffer: the folded start of the path, terminated. -/
def folded (path : WPath) : List UInt16 := (path.chars.take 2047).map foldCase

/-- The folded copy has no terminator inside. -/
lemma folded_noNul (path : WPath) : 0 ∉ folded path := by
  intro zero
  obtain ⟨c, char, nul⟩ := List.mem_map.mp zero
  refine foldCase_ne_zero ?_ nul
  rintro rfl
  exact path.noNul (List.mem_of_mem_take char)

/-- The folded copy fits its buffer, the terminator included. -/
lemma length_folded (path : WPath) : (folded path).length ≤ 2047 := by
  rw [folded, List.length_map]
  exact List.length_take_le 2047 path.chars

/-- The loop leaves room for the terminator, which is stored behind the folded characters. -/
lemma foldLoop_terminated (path : WPath) (buffer : (m .lowerPath).length = 2048)
    (cells : m .devicePath = path.cells) :
    foldLoop (2048 - 1) 0 m = some ((folded path).length, m.splice .lowerPath (folded path)) ∧
      (m.splice .lowerPath (folded path)).store .lowerPath (folded path).length 0
        = some (m.splice .lowerPath (folded path ++ [0])) := by
  have unread : m.Unread .devicePath ([] : List UInt16).length (path.chars ++ [0]) := by
    simp [Mem.Unread, cells, WPath.cells]
  have room : ([] : List UInt16).length + 2047 < (m .lowerPath).length := by
    rw [buffer]
    decide
  have loop := foldLoop_splice room unread path.noNul
  rw [Mem.splice_nil, List.nil_append] at loop
  have short : (folded path).length < (m .lowerPath).length := by
    rw [buffer]
    exact Nat.lt_succ_of_le (length_folded path)
  exact ⟨loop, Mem.store_splice short⟩

/-- The identifier is searched in the first 2047 characters, folded to lower case. -/
lemma pathContainsVidPid_eq (stack : Vector UInt16 2048) (path : WPath) (vid pid : UInt16) :
    pathContainsVidPid stack (some path) vid pid
      = some (wcsstr (pattern vid pid) ((path.chars.take 2047).map foldCase)).isSome := by
  obtain ⟨mem, mem_eq⟩ : ∃ m : Mem PathObject UInt16, m = fun
    | .devicePath => path.cells
    | .lowerPath => stack.toList := ⟨_, rfl⟩
  have buffer : (mem .lowerPath).length = 2048 := by
    rw [mem_eq]
    exact Vector.length_toList
  obtain ⟨loop, store⟩ := foldLoop_terminated path buffer (by rw [mem_eq])
  rw [pathContainsVidPid, ← mem_eq, loop]
  simp only [Option.bind_eq_bind, Option.bind_some, store, Mem.splice_same,
    cString_splice (folded_noNul path)]
  rfl

end Ks959.Device
