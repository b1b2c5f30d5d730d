import Ks959.Lib.Memory
import Ks959.Lib.Transducer

/-!
# Driving a transducer over memory

`drive` is the C loop that reads an object cell by cell through a transducer and writes what it
emits to the start of a second object, giving up when `room` cells are written and one more is
emitted. Source and destination may be the same object: the write index never passes the read
index, so every cell is read before it is overwritten.

`drive_eq_within` is the rule for such loops: no access is out of bounds, the run is the
transducer's own `within`, and the memory changes only by the splice of its output.
-/

namespace CMemory

variable {σ ι α : Type} [DecidableEq ι]

/-- What a driven loop leaves behind. -/
structure Driven (σ ι α : Type) where
  complete : Bool
  state : σ
  produced : Nat
  mem : Mem ι α

/-- Read `left` cells of `src` from `i` on, writing to `dst` from `produced` on. -/
def drive (t : Transducer σ α α) (src dst : ι) (room : Nat) :
    (left i produced : Nat) → σ → Mem ι α → Option (Driven σ ι α)
  | 0, _, produced, s, mem => some ⟨true, s, produced, mem⟩
  | left + 1, i, produced, s, mem => do
    let x ← mem.load src i
    match t.emit s x with
    | none => drive t src dst room left (i + 1) produced (t.next s x) mem
    | some y =>
      if room ≤ produced then
        some ⟨false, t.next s x, produced, mem⟩
      else do
        let mem ← mem.store dst produced y
        drive t src dst room left (i + 1) (produced + 1) (t.next s x) mem

variable {t : Transducer σ α α} {src dst : ι} {room left i produced : Nat} {s : σ}
  {m : Mem ι α} {xs ys : List α} {x y : α}

/-- With nothing left to read the run is complete. -/
lemma drive_zero : drive t src dst room 0 i produced s m = some ⟨true, s, produced, m⟩ := rfl

/-- A symbol for which nothing is emitted. -/
lemma drive_none (read : m.load src i = some x) (e : t.emit s x = none) :
    drive t src dst room (left + 1) i produced s m
      = drive t src dst room left (i + 1) produced (t.next s x) m := by
  simp [drive, read, e]

/-- A symbol for whose output there is no room ends the run. -/
lemma drive_full (read : m.load src i = some x) (e : t.emit s x = some y)
    (full : room ≤ produced) :
    drive t src dst room (left + 1) i produced s m
      = some ⟨false, t.next s x, produced, m⟩ := by
  simp [drive, read, e, full]

/-- A symbol whose output is stored. -/
lemma drive_some {m' : Mem ι α} (read : m.load src i = some x) (e : t.emit s x = some y)
    (fits : produced < room) (write : m.store dst produced y = some m') :
    drive t src dst room (left + 1) i produced s m
      = drive t src dst room left (i + 1) (produced + 1) (t.next s x) m' := by
  simp [drive, read, e, write, Nat.not_le.mpr fits]

/-- The loop in mid-run: `ys` is written, the cells `xs` are still to be read. -/
lemma drive_splice (valid : room ≤ (m dst).length) (behind : src = dst → ys.length ≤ i)
    (fits : ys.length ≤ room) (unread : m.Unread src i xs) :
    drive t src dst room xs.length i ys.length s (m.splice dst ys)
      = some ⟨(t.within (room - ys.length) s xs).complete,
          (t.within (room - ys.length) s xs).state,
          ys.length + (t.within (room - ys.length) s xs).out.length,
          m.splice dst (ys ++ (t.within (room - ys.length) s xs).out)⟩ := by
  -- on the cells still to be read; the written ones and the state move along
  induction xs generalizing s i ys with
  | nil => simp [drive_zero, Transducer.within]
  | cons x xs ih =>
    have read : (m.splice dst ys).load src i = some x := by
      rw [Mem.load_splice behind, unread.load]
    have ahead : src = dst → ys.length ≤ i + 1 := fun e => Nat.le_succ_of_le (behind e)
    rw [List.length_cons]
    cases e : t.emit s x with
    | none =>
      rw [drive_none read e, ih ahead fits unread.tail, Transducer.within_cons_none e]
    | some y =>
      obtain ⟨k, hk⟩ : ∃ k, room - ys.length = k := ⟨_, rfl⟩
      cases k with
      | zero =>
        rw [drive_full read e (by omega), hk, Transducer.within_cons_full e]
        simp
      | succ k =>
        have write : (m.splice dst ys).store dst ys.length y = some (m.splice dst (ys ++ [y])) :=
          Mem.store_splice (by omega)
        have len : ys.length + 1 = (ys ++ [y]).length := by simp
        have k' : room - (ys ++ [y]).length = k := by rw [← len]; omega
        rw [drive_some read e (by omega) write, len,
          ih (by rw [← len]; exact fun e => Nat.succ_le_succ (behind e)) (by omega) unread.tail,
          k', hk, Transducer.within_cons_some e]
        simp
        omega

/-- A driven loop is the transducer's run with limited room, and writes nothing but its output. -/
lemma drive_eq_within (valid : room ≤ (m dst).length) (read : left ≤ (m src).length) :
    drive t src dst room left 0 0 s m
      = some ⟨(t.within room s ((m src).take left)).complete,
          (t.within room s ((m src).take left)).state,
          (t.within room s ((m src).take left)).out.length,
          m.splice dst (t.within room s ((m src).take left)).out⟩ := by
  have len : ((m src).take left).length = left := List.length_take_of_le read
  have none : ([] : List α).length ≤ room := Nat.zero_le room
  have run := drive_splice (t := t) (s := s) valid (fun _ => Nat.zero_le 0) none
    (Mem.unread_take read)
  rw [len] at run
  simpa using run

end CMemory
