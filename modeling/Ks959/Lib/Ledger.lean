import Mathlib

/-!
# Resource ledgers

A program that acquires, uses and releases resources leaves a trace of `Event`s. `replay` books the
trace on a ledger that knows for each resource whether it is fresh, live or freed, and refuses what
no disciplined program does: to acquire twice, to use or to release what is not live.

A trace that can be replayed from the empty ledger is `Disciplined` (`disciplined_of_replay`):
what is live at the end is held, everything else that was acquired has been released exactly once,
and nothing is touched after its release.
-/

namespace Ledger

/-- What a program does with a resource. -/
inductive Event (R : Type) where
  | acquire (r : R)
  | use (r : R)
  | release (r : R)
deriving DecidableEq, Repr

/-- Where a resource is in its life. -/
inductive Phase where
  | fresh
  | live
  | freed
deriving DecidableEq, Repr

variable {R : Type}

/-- The resource an event is about. -/
def Event.resource : Event R → R
  | .acquire r => r
  | .use r => r
  | .release r => r

/-- The phase after an event, `none` where the event is a fault. -/
def Phase.next : Phase → Event R → Option Phase
  | .fresh, .acquire _ => some .live
  | .live, .use _ => some .live
  | .live, .release _ => some .freed
  | _, _ => none

/-- The resource an event releases. -/
def Event.released? : Event R → Option R
  | .release r => some r
  | _ => none

/-- The resources released in a trace, in order. -/
def releases (es : List (Event R)) : List R := es.filterMap Event.released?

variable [DecidableEq R]

/-- Book one event. -/
def book (φ : R → Phase) (e : Event R) : Option (R → Phase) :=
  ((φ e.resource).next e).map (Function.update φ e.resource)

/-- Book a trace. -/
def replay : (R → Phase) → List (Event R) → Option (R → Phase)
  | φ, [] => some φ
  | φ, e :: es => (book φ e).bind fun φ => replay φ es

/-- The ledger of a program that has not done anything. -/
def empty : R → Phase := fun _ => .fresh

variable {φ ψ : R → Phase} {e : Event R} {es fs : List (Event R)} {r : R}

/-- Without events the ledger stays as it is. -/
@[simp] lemma replay_nil : replay φ [] = some φ := rfl

/-- The first event is booked first. -/
lemma replay_cons : replay φ (e :: es) = (book φ e).bind fun φ => replay φ es := rfl

/-- Two sequences of events are booked one after the other. -/
lemma replay_append : replay φ (es ++ fs) = (replay φ es).bind fun φ => replay φ fs := by
  induction es generalizing φ with
  | nil => rfl
  | cons e es ih =>
    rw [List.cons_append, replay_cons, replay_cons, Option.bind_assoc]
    congr 1
    funext φ
    exact ih

/-- A resource that has not been held may be acquired. -/
lemma replay_acquire (fresh : φ r = .fresh) :
    replay φ (.acquire r :: es) = replay (Function.update φ r .live) es := by
  simp [replay_cons, book, Event.resource, fresh, Phase.next]

/-- A resource that is held may be used, which changes nothing. -/
lemma replay_use (live : φ r = .live) : replay φ (.use r :: es) = replay φ es := by
  have same : Function.update φ r .live = φ := by
    rw [← live, Function.update_eq_self]
  simp [replay_cons, book, Event.resource, live, Phase.next, same]

/-- A resource that is held may be released. -/
lemma replay_release (live : φ r = .live) :
    replay φ (.release r :: es) = replay (Function.update φ r .freed) es := by
  simp [replay_cons, book, Event.resource, live, Phase.next]

/-- To free a resource brings none to life. -/
lemma idle_update {r' : R} (idle : φ r ≠ .live) : Function.update φ r' .freed r ≠ .live := by
  rcases eq_or_ne r r' with rfl | other
  · rw [Function.update_self]
    exact Phase.noConfusion
  · rwa [Function.update_of_ne other]

/-- An event that can be booked moves its own resource and no other. -/
lemma book_inv (e₁ : book φ e = some ψ) :
    ∃ p, (φ e.resource).next e = some p ∧ ψ = Function.update φ e.resource p := by
  obtain ⟨p, next, rfl⟩ := Option.map_eq_some_iff.mp e₁
  exact ⟨p, next, rfl⟩

/-- How often a resource in this phase has been acquired. -/
def Phase.acquired : Phase → Nat
  | .fresh => 0
  | .live => 1
  | .freed => 1

/-- How often a resource in this phase has been released. -/
def Phase.released : Phase → Nat
  | .fresh => 0
  | .live => 0
  | .freed => 1

/-- One event moves the counts of acquisitions and releases with the phase. -/
lemma book_counts (e₁ : book φ e = some ψ) (r : R) :
    [e].count (.acquire r) + (φ r).acquired = (ψ r).acquired ∧
      [e].count (.release r) + (φ r).released = (ψ r).released := by
  obtain ⟨p, next, rfl⟩ := book_inv e₁
  rcases eq_or_ne e.resource r with same | other
  · subst same
    rw [Function.update_self]
    cases e with
    | acquire r | use r | release r =>
      cases phase : φ r <;> simp_all [Phase.next, Event.resource] <;> subst next <;>
        simp [Phase.acquired, Phase.released]
  · rw [Function.update_of_ne other.symm]
    have acquire : e ≠ .acquire r := by rintro rfl; exact other rfl
    have release : e ≠ .release r := by rintro rfl; exact other rfl
    simp [acquire, release]

/-- A trace moves the counts of acquisitions and releases with the phase. -/
lemma replay_counts (run : replay φ es = some ψ) (r : R) :
    es.count (.acquire r) + (φ r).acquired = (ψ r).acquired ∧
      es.count (.release r) + (φ r).released = (ψ r).released := by
  -- on the trace, from any ledger: every event leaves another one behind
  induction es generalizing φ with
  | nil =>
    cases run
    simp
  | cons e es ih =>
    obtain ⟨χ, booked, run⟩ := Option.bind_eq_some_iff.mp run
    obtain ⟨acquired, released⟩ := book_counts booked r
    obtain ⟨acquireds, releaseds⟩ := ih run
    rw [← List.singleton_append, List.count_append, List.count_append]
    omega

/-- A trace that was booked leaves what was freed before it alone. -/
lemma replay_freed (run : replay φ es = some ψ) (freed : φ r = .freed) :
    ∀ e ∈ es, e.resource ≠ r := by
  induction es generalizing φ with
  | nil => simp
  | cons e es ih =>
    obtain ⟨χ, booked, run⟩ := Option.bind_eq_some_iff.mp run
    obtain ⟨p, next, rfl⟩ := book_inv booked
    have other : e.resource ≠ r := by
      rintro rfl
      rw [freed] at next
      cases next
    have rest := ih run (by rw [Function.update_of_ne other.symm, freed])
    intro e' mem
    rcases List.mem_cons.mp mem with rfl | mem
    · exact other
    · exact rest e' mem

/-- What it means for a trace that starts with nothing and ends holding `held` to be clean. -/
structure Disciplined (es : List (Event R)) (held : R → Prop) : Prop where
  /-- Nothing is acquired twice. -/
  acquiredOnce : ∀ r, es.count (.acquire r) ≤ 1
  /-- Nothing is used or released before it has been acquired. -/
  known : ∀ pre e post, es = pre ++ e :: post →
    e = .acquire e.resource ∨ .acquire e.resource ∈ pre
  /-- What was acquired and is not held has been released exactly once. -/
  releasedOnce : ∀ r, .acquire r ∈ es → ¬ held r → es.count (.release r) = 1
  /-- What is held was acquired and has not been released. -/
  kept : ∀ r, held r → .acquire r ∈ es ∧ .release r ∉ es
  /-- Nothing is touched after its release. -/
  quiet : ∀ pre r post, es = pre ++ .release r :: post → ∀ e ∈ post, e.resource ≠ r

/-- A resource that is known has been acquired once. -/
lemma acquired_pos {p : Phase} (known : p ≠ .fresh) : p.acquired = 1 := by
  cases p with
  | fresh => contradiction
  | live => rfl
  | freed => rfl

/-- A trace that can be booked from the empty ledger is clean and ends holding what is live. -/
theorem disciplined_of_replay {held : R → Prop} (run : replay empty es = some φ)
    (live : ∀ r, held r ↔ φ r = .live) : Disciplined es held where
  acquiredOnce r := by
    have counts := (replay_counts run r).1
    cases phase : φ r <;> rw [phase] at counts <;>
      simp [empty, Phase.acquired] at counts ⊢ <;> omega
  known pre e post split := by
    subst split
    rw [replay_append] at run
    obtain ⟨χ, before, run⟩ := Option.bind_eq_some_iff.mp run
    obtain ⟨ψ, booked, _⟩ := Option.bind_eq_some_iff.mp run
    obtain ⟨p, next, rfl⟩ := book_inv booked
    have counts := (replay_counts before e.resource).1
    rcases eq_or_ne (χ e.resource) .fresh with fresh | known
    · rw [fresh] at next
      cases e with
      | acquire r => exact .inl rfl
      | use r => cases next
      | release r => cases next
    · rw [acquired_pos known] at counts
      refine .inr (List.count_pos_iff.mp ?_)
      simp [empty, Phase.acquired] at counts
      omega
  releasedOnce r acquired gone := by
    obtain ⟨acquires, releases⟩ := replay_counts run r
    have some := List.count_pos_iff.mpr acquired
    cases phase : φ r with
    | fresh => simp [phase, empty, Phase.acquired] at acquires; omega
    | live => exact absurd ((live r).mpr phase) gone
    | freed => simpa [phase, empty, Phase.released] using releases
  kept r keeps := by
    obtain ⟨acquires, releases⟩ := replay_counts run r
    rw [(live r).mp keeps] at acquires releases
    constructor
    · refine List.count_pos_iff.mp ?_
      simp [empty, Phase.acquired] at acquires
      omega
    · refine List.count_eq_zero.mp ?_
      simpa [empty, Phase.released] using releases
  quiet pre r post split := by
    subst split
    rw [replay_append] at run
    obtain ⟨χ, _, run⟩ := Option.bind_eq_some_iff.mp run
    obtain ⟨ψ, booked, rest⟩ := Option.bind_eq_some_iff.mp run
    obtain ⟨p, next, rfl⟩ := book_inv booked
    refine replay_freed rest ?_
    change Function.update χ r p r = _
    rw [Function.update_self]
    change (χ r).next _ = _ at next
    cases phase : χ r <;> rw [phase] at next <;> cases next
    rfl

end Ledger
