import Mathlib

/-!
# Runs of a labelled machine

A machine is a partial step function: `step s l` is the state after the action `l`, and `none` when
`l` is not possible in `s`. `run` takes a list of actions, `Along P` says that a run meets a
condition at each of its steps.

* `run_invariant`: an invariant of the actions so far and the state, preserved by each step.
* `good_iff`: where each step that meets `P` keeps a state good, each other step spoils it, and what
  is spoilt stays so, a run ends well exactly when all its steps meet `P`.
-/

namespace Machine

variable {σ ℓ : Type} (step : σ → ℓ → Option σ)

/-- Take the actions one after another. -/
def run : σ → List ℓ → Option σ
  | s, [] => some s
  | s, l :: ls => (step s l).bind fun s' => run s' ls

/-- What a run shows, step by step. -/
def observed {ε : Type} (shows : σ → ℓ → List ε) : σ → List ℓ → List ε
  | _, [] => []
  | s, l :: ls =>
    match step s l with
    | none => []
    | some s' => shows s l ++ observed shows s' ls

/-- Every step of the run from `s` meets the condition. -/
def Along (P : σ → ℓ → Prop) : σ → List ℓ → Prop
  | _, [] => True
  | s, l :: ls => P s l ∧ ∀ s', step s l = some s' → Along P s' ls

instance decidableAlong (P : σ → ℓ → Prop) [∀ s l, Decidable (P s l)] :
    ∀ (s : σ) (ls : List ℓ), Decidable (Along step P s ls)
  | _, [] => isTrue trivial
  | s, l :: ls =>
    match st : step s l with
    | none => decidable_of_iff (P s l) ⟨fun p => ⟨p, by rw [st]; nofun⟩, And.left⟩
    | some s' =>
      have := decidableAlong P s' ls
      decidable_of_iff (P s l ∧ Along step P s' ls)
        ⟨fun along => ⟨along.1, by rw [st]; rintro _ ⟨⟩; exact along.2⟩,
          fun along => ⟨along.1, along.2 s' st⟩⟩

variable {step} {P Q : σ → ℓ → Prop} {s s' t : σ} {l : ℓ} {ls : List ℓ}

/-- A run goes on from the first step. -/
lemma run_cons (st : step s l = some s') : run step s (l :: ls) = run step s' ls := by
  rw [run, st, Option.bind_some]

/-- The first step of a run. -/
lemma run_cons_inv (r : run step s (l :: ls) = some t) :
    ∃ s', step s l = some s' ∧ run step s' ls = some t :=
  Option.bind_eq_some_iff.mp r

/-- A run is a first part of it and the rest from where that has ended. -/
lemma run_append {ls' : List ℓ} :
    run step s (ls ++ ls') = (run step s ls).bind fun s' => run step s' ls' := by
  induction ls generalizing s with
  | nil => rfl
  | cons l ls ih =>
    rw [List.cons_append, run, run, Option.bind_assoc]
    exact congrArg _ (funext fun s' => ih)

/-- A condition along a run holds at the first step and along the rest. -/
lemma along_cons (st : step s l = some s') :
    Along step P s (l :: ls) ↔ P s l ∧ Along step P s' ls := by
  constructor
  · intro along
    exact ⟨along.1, along.2 s' st⟩
  · intro along
    refine ⟨along.1, fun s'' st' => ?_⟩
    cases st.symm.trans st'
    exact along.2

/-- What holds before the first action and is carried on by each step holds after every run. -/
theorem run_invariant (Inv : List ℓ → σ → Prop) (start : Inv [] s)
    (carry : ∀ ls s l s', Inv ls s → step s l = some s' → Inv (ls ++ [l]) s')
    (r : run step s ls = some t) : Inv ls t := by
  -- the actions already taken are collected on the left
  suffices go : ∀ done ls s, Inv done s → run step s ls = some t → Inv (done ++ ls) t from
    go [] ls s start r
  intro done ls
  induction ls generalizing done with
  | nil =>
    intro s inv r
    cases r
    rw [List.append_nil]
    exact inv
  | cons l ls ih =>
    intro s inv r
    obtain ⟨s', st, rest⟩ := run_cons_inv r
    have next := ih (done ++ [l]) s' (carry done s l s' inv st) rest
    rwa [List.append_assoc] at next

/-- A run from a good state ends in one exactly when its steps meet the condition. -/
theorem good_iff {Good Bad : σ → Prop} (apart : ∀ s, Good s → ¬ Bad s)
    (keep : ∀ s l s', Q s l → P s l → step s l = some s' → Good s → Good s')
    (spoil : ∀ s l s', Q s l → ¬ P s l → step s l = some s' → Good s → Bad s')
    (stay : ∀ s l s', Q s l → step s l = some s' → Bad s → Bad s')
    (good : Good s) (along : Along step Q s ls) (r : run step s ls = some t) :
    Good t ↔ Along step P s ls := by
  have spoilt {s : σ} {ls : List ℓ} (bad : Bad s) (along : Along step Q s ls)
      (r : run step s ls = some t) : Bad t := by
    induction ls generalizing s with
    | nil =>
      cases r
      exact bad
    | cons l ls ih =>
      obtain ⟨s', st, rest⟩ := run_cons_inv r
      obtain ⟨q, along⟩ := (along_cons st).mp along
      exact ih (stay s l s' q st bad) along rest
  induction ls generalizing s with
  | nil =>
    cases r
    exact ⟨fun _ => trivial, fun _ => good⟩
  | cons l ls ih =>
    obtain ⟨s', st, rest⟩ := run_cons_inv r
    obtain ⟨q, along⟩ := (along_cons st).mp along
    rw [along_cons st]
    by_cases p : P s l
    · have tail := ih (keep s l s' q p st good) along rest
      exact tail.trans ⟨fun kept => ⟨p, kept⟩, And.right⟩
    · have bad := spoilt (spoil s l s' q p st good) along rest
      exact ⟨fun g => absurd bad (apart t g), fun h => absurd h.1 p⟩

end Machine
