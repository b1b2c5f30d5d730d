import Mathlib

/-!
# Transducers

A transducer reads one symbol at a time, moves to its next state and emits at most one symbol.
`final` and `output` are the state it ends in and what it has emitted; both split over
concatenation (`final_append`, `output_append`), so a stream may be cut anywhere (`output_flatten`).

`within` runs a transducer whose output has only `room` places and which stops on the first symbol
it cannot place. `within_complete_iff`, `within_out` and `within_state` relate it to the
unlimited run; `within_stop` says where it stops.

A transducer is `Oblivious` when its moves do not depend on what it reads, nor whether it emits.
Then two streams of one length are told apart by the output exactly where the emitted symbols
differ (`Oblivious.output_eq_iff`).
-/

/-- A deterministic machine that emits at most one symbol for each symbol read. -/
structure Transducer (σ α β : Type) where
  next : σ → α → σ
  emit : σ → α → Option β

/-- How a run with limited room ends. -/
structure BoundedRun (σ β : Type) where
  complete : Bool
  state : σ
  out : List β

namespace Transducer

variable {σ α β : Type} (t : Transducer σ α β)

/-- The state reached after `xs`. -/
def final : σ → List α → σ := List.foldl t.next

/-- The symbols emitted on `xs`. -/
def output : σ → List α → List β
  | _, [] => []
  | s, x :: xs => (t.emit s x).toList ++ output (t.next s x) xs

/-- The symbols emitted on each chunk, the state carried over from chunk to chunk. -/
def outputs : σ → List (List α) → List (List β)
  | _, [] => []
  | s, c :: cs => t.output s c :: outputs (t.final s c) cs

/-- The run that stops on the first symbol for which `room` is exhausted. -/
def within : Nat → σ → List α → BoundedRun σ β
  | _, s, [] => ⟨true, s, []⟩
  | room, s, x :: xs =>
    match t.emit s x with
    | none => within room (t.next s x) xs
    | some y =>
      match room with
      | 0 => ⟨false, t.next s x, []⟩
      | room + 1 =>
        let run := within room (t.next s x) xs
        { run with out := y :: run.out }

variable {t} {s : σ} {x : α} {xs ys : List α} {room : Nat}

/-- Before the first symbol the state is the one it starts in. -/
@[simp] lemma final_nil : t.final s [] = s := rfl

/-- The state moves with the first symbol, and then with the rest. -/
@[simp] lemma final_cons : t.final s (x :: xs) = t.final (t.next s x) xs := rfl

/-- Without symbols nothing is emitted. -/
@[simp] lemma output_nil : t.output s [] = [] := rfl

/-- The symbol emitted on the first one stands before the output on the rest. -/
@[simp] lemma output_cons :
    t.output s (x :: xs) = (t.emit s x).toList ++ t.output (t.next s x) xs := rfl

/-- The state after two streams in a row is the one that the second ends in. -/
lemma final_append : t.final s (xs ++ ys) = t.final (t.final s xs) ys :=
  List.foldl_append

/-- The output on two streams in a row is that on the first, then that on the second. -/
lemma output_append : t.output s (xs ++ ys) = t.output s xs ++ t.output (t.final s xs) ys := by
  induction xs generalizing s with
  | nil => rfl
  | cons x xs ih => simp [ih]

/-- One symbol more adds what is emitted on it. -/
lemma output_concat :
    t.output s (xs ++ [x]) = t.output s xs ++ (t.emit (t.final s xs) x).toList := by
  simp [output_append]

/-- The output on a stream does not depend on how it was cut. -/
lemma output_flatten (chunks : List (List α)) :
    t.output s chunks.flatten = (t.outputs s chunks).flatten := by
  induction chunks generalizing s with
  | nil => rfl
  | cons c cs ih => rw [List.flatten_cons, output_append, ih, outputs, List.flatten_cons]

/-- No more symbols are emitted than read. -/
lemma length_output_le : (t.output s xs).length ≤ xs.length := by
  induction xs generalizing s with
  | nil => rfl
  | cons x xs ih =>
    have le := ih (s := t.next s x)
    cases e : t.emit s x with
    | none => simpa [e] using Nat.le_succ_of_le le
    | some y => simpa [e] using le

/-- A symbol for which nothing is emitted takes no room. -/
lemma within_cons_none (e : t.emit s x = none) :
    t.within room s (x :: xs) = t.within room (t.next s x) xs := by
  simp [within, e]

/-- A symbol for which there is no room ends the run. -/
lemma within_cons_full {y : β} (e : t.emit s x = some y) :
    t.within 0 s (x :: xs) = ⟨false, t.next s x, []⟩ := by
  simp [within, e]

/-- A symbol that is emitted takes one place. -/
lemma within_cons_some {y : β} (e : t.emit s x = some y) :
    t.within (room + 1) s (x :: xs)
      = ⟨(t.within room (t.next s x) xs).complete, (t.within room (t.next s x) xs).state,
          y :: (t.within room (t.next s x) xs).out⟩ := by
  simp [within, e]

/-- A run with limited room emits what fits of the unlimited output. -/
lemma within_out : (t.within room s xs).out = (t.output s xs).take room := by
  induction xs generalizing s room with
  | nil => simp [within]
  | cons x xs ih =>
    cases e : t.emit s x with
    | none => rw [within_cons_none e, ih]; simp [e]
    | some y =>
      cases room with
      | zero => rw [within_cons_full e]; simp
      | succ room => rw [within_cons_some e, ih]; simp [e]

/-- A run with limited room is complete exactly when the unlimited output fits. -/
lemma within_complete_iff :
    (t.within room s xs).complete = true ↔ (t.output s xs).length ≤ room := by
  induction xs generalizing s room with
  | nil => simp [within]
  | cons x xs ih =>
    cases e : t.emit s x with
    | none => rw [within_cons_none e, ih]; simp [e]
    | some y =>
      cases room with
      | zero => rw [within_cons_full e]; simp [e]
      | succ room => rw [within_cons_some e, ih]; simp [e]

/-- A complete run ends in the state of the unlimited run. -/
lemma within_state (fits : (t.output s xs).length ≤ room) :
    (t.within room s xs).state = t.final s xs := by
  induction xs generalizing s room with
  | nil => rfl
  | cons x xs ih =>
    cases e : t.emit s x with
    | none =>
      rw [within_cons_none e, final_cons]
      exact ih (by simpa [e] using fits)
    | some y =>
      cases room with
      | zero => simp [e] at fits
      | succ room =>
        rw [within_cons_some e, final_cons]
        exact ih (by simpa [e] using fits)

/-- An incomplete run has stopped on the symbol whose output was the first not to fit, and has
    already taken the state past that symbol. -/
lemma within_stop (full : room < (t.output s xs).length) :
    ∃ ys x zs, xs = ys ++ x :: zs ∧ (t.output s ys).length = room ∧
      (t.emit (t.final s ys) x).isSome ∧ (t.within room s xs).state = t.final s (ys ++ [x]) := by
  induction xs generalizing s room with
  | nil => simp at full
  | cons x xs ih =>
    cases e : t.emit s x with
    | none =>
      obtain ⟨ys, z, zs, rfl, len, some, state⟩ := ih (s := t.next s x) (by simpa [e] using full)
      exact ⟨x :: ys, z, zs, rfl, by simpa [e] using len, some, by
        rw [within_cons_none e, state]; rfl⟩
    | some y =>
      cases room with
      | zero => exact ⟨[], x, xs, rfl, rfl, by simp [e], by rw [within_cons_full e]; rfl⟩
      | succ room =>
        obtain ⟨ys, z, zs, rfl, len, some, state⟩ := ih (s := t.next s x) (by simpa [e] using full)
        exact ⟨x :: ys, z, zs, rfl, by simp [e, len], some, by
          rw [within_cons_some e, state]; rfl⟩

/-- The moves, and whether a symbol is emitted, do not depend on the symbol read. -/
structure Oblivious (t : Transducer σ α β) : Prop where
  next : ∀ s x y, t.next s x = t.next s y
  emits : ∀ s x y, (t.emit s x).isSome = (t.emit s y).isSome

namespace Oblivious

/-- The state after a stream depends on its length only. -/
lemma final_eq (obl : t.Oblivious) (len : xs.length = ys.length) : t.final s xs = t.final s ys := by
  induction xs generalizing s ys with
  | nil =>
    cases ys with
    | nil => rfl
    | cons y ys => cases len
  | cons x xs ih =>
    cases ys with
    | nil => cases len
    | cons y ys => rw [final_cons, final_cons, obl.next s x y, ih (Nat.succ.inj len)]

/-- Whether a symbol is emitted does not depend on the one that is read. -/
lemma toList_emit_length (obl : t.Oblivious) (s : σ) (x y : α) :
    (t.emit s x).toList.length = (t.emit s y).toList.length := by
  rw [Option.length_toList, Option.length_toList, obl.emits s x y]

/-- Two streams have the same output exactly when they emit the same in each place. -/
lemma output_eq_iff (obl : t.Oblivious) (len : xs.length = ys.length) :
    t.output s xs = t.output s ys ↔
      ∀ i x y, xs[i]? = some x → ys[i]? = some y →
        t.emit (t.final s (xs.take i)) x = t.emit (t.final s (xs.take i)) y := by
  induction xs generalizing s ys with
  | nil =>
    cases ys with
    | nil => exact ⟨fun _ _ _ _ here => by simp at here, fun _ => rfl⟩
    | cons y ys => cases len
  | cons x xs ih =>
    cases ys with
    | nil => cases len
    | cons y ys =>
      have tails := ih (s := t.next s x) (Nat.succ.inj len)
      rw [output_cons, output_cons, ← obl.next s x y]
      constructor
      · intro same i a b atA atB
        obtain ⟨head, tail⟩ := List.append_inj same (obl.toList_emit_length s x y)
        cases i with
        | zero =>
          cases atA
          cases atB
          simpa using congrArg List.head? head
        | succ i => exact tails.mp tail i a b atA atB
      · intro same
        have head : t.emit s x = t.emit s y := same 0 x y rfl rfl
        have tail := tails.mpr fun i a b atA atB => same (i + 1) a b atA atB
        rw [head, tail]

end Oblivious
end Transducer
