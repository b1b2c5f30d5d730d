import Ks959.Lib.Machine

/-!
# Dialogues

A program that depends on its surroundings asks questions and goes on with the answers. A `Dialogue`
is such a program, with an answer type for each question; it asks finitely many questions whatever
is answered. `Runs p t r` says that `p` can return `r` after the exchanges `t`.

`Ensures p post` is the judgement on all runs of `p`. What a dialogue may ask and when is told by a
machine that follows it, and gets stuck on an exchange that is out of order: `Follows` is the
judgement that the machine can follow every run from a state, with a postcondition. The rules of
both go by the shape of the dialogue (`follows_halt`, `follows_ask`, `Follows.bind`) and over loops
(`Follows.forEach`).

A machine that runs a program in small steps beside its surroundings is compared with the program as
a dialogue through what is left of it in each state (`Advances`, `advances_run`).
-/

/-- A program that asks questions of type `Q`. -/
inductive Dialogue {Q : Type} (A : Q → Type) (R : Type) where
  | halt (r : R)
  | ask (q : Q) (k : A q → Dialogue A R)

namespace Dialogue

variable {Q : Type} {A : Q → Type} {R S σ α : Type}

/-- One dialogue after another. -/
protected def bind : Dialogue A R → (R → Dialogue A S) → Dialogue A S
  | halt r, f => f r
  | ask q k, f => ask q fun a => (k a).bind f

instance : Monad (Dialogue A) where
  pure := halt
  bind := Dialogue.bind

/-- Ask, and return the answer. -/
def question (q : Q) : Dialogue A (A q) := ask q halt

/-- Go through a list with an accumulator. -/
def forEach (f : σ → α → Dialogue A σ) : σ → List α → Dialogue A σ
  | s, [] => halt s
  | s, x :: xs => (f s x).bind fun s => forEach f s xs

/-- The exchanges of a dialogue that returns, and what it returns. -/
inductive Runs : Dialogue A R → List (Σ q, A q) → R → Prop where
  | halt (r : R) : Runs (halt r) [] r
  | ask {q : Q} {k : A q → Dialogue A R} {t : List (Σ q, A q)} {r : R} (a : A q)
      (rest : Runs (k a) t r) : Runs (ask q k) (⟨q, a⟩ :: t) r

/-- The run against surroundings that answer by what has been exchanged before. -/
def against (answer : List (Σ q, A q) → (q : Q) → A q) :
    List (Σ q, A q) → Dialogue A R → List (Σ q, A q) × R
  | _, halt r => ([], r)
  | past, ask q k =>
    let x : Σ q, A q := ⟨q, answer past q⟩
    let rest := against answer (past ++ [x]) (k x.2)
    (x :: rest.1, rest.2)

/-- What is returned when a question has one answer, whenever it is asked. -/
def result (answer : (q : Q) → A q) : Dialogue A R → R
  | halt r => r
  | ask q k => result answer (k (answer q))

variable {p : Dialogue A R} {f : R → Dialogue A S} {t : List (Σ q, A q)} {r : R} {s : S}

/-- `pure` halts. -/
@[simp] lemma pure_eq (r : R) : (pure r : Dialogue A R) = halt r := rfl

/-- `>>=` is `Dialogue.bind`. -/
@[simp] lemma bind_eq (p : Dialogue A R) (f : R → Dialogue A S) : p >>= f = p.bind f := rfl

/-- A dialogue that has halted goes on with the next. -/
@[simp] lemma halt_bind (r : R) (f : R → Dialogue A S) : (halt r).bind f = f r := rfl

/-- A question goes on with its answer. -/
@[simp] lemma question_bind (q : Q) (f : A q → Dialogue A S) : (question q).bind f = ask q f := rfl

/-- Dialogues in a row may be put in brackets either way. -/
lemma bind_assoc {T : Type} (p : Dialogue A R) (f : R → Dialogue A S) (g : S → Dialogue A T) :
    (p.bind f).bind g = p.bind fun r => (f r).bind g := by
  induction p with
  | halt r => rfl
  | ask q k ih => exact congrArg (ask q) (funext ih)

/-- Whatever is answered, a dialogue comes to an end. -/
lemma against_runs (answer : List (Σ q, A q) → (q : Q) → A q) (past : List (Σ q, A q))
    (p : Dialogue A R) : Runs p (against answer past p).1 (against answer past p).2 := by
  induction p generalizing past with
  | halt r => exact .halt r
  | ask q k ih => exact .ask _ (ih _ _)

/-- A dialogue that has halted has its result. -/
@[simp] lemma result_halt (answer : (q : Q) → A q) (r : R) :
    result answer (halt r : Dialogue A R) = r := rfl

/-- The result of a question is the result of what it goes on with. -/
@[simp] lemma result_ask (answer : (q : Q) → A q) (q : Q) (k : A q → Dialogue A R) :
    result answer (ask q k) = result answer (k (answer q)) := rfl

/-- The result of two dialogues in a row is that of the second, started with that of the first. -/
lemma result_bind (answer : (q : Q) → A q) :
    result answer (p.bind f) = result answer (f (result answer p)) := by
  induction p with
  | halt r => rfl
  | ask q k ih => exact ih (answer q)

/-- Two dialogues in a row against one surrounding: the second meets what the first has left. -/
lemma against_bind_snd (answer : List (Σ q, A q) → (q : Q) → A q) (past : List (Σ q, A q)) :
    (against answer past (p.bind f)).2 = (against answer (past ++ (against answer past p).1)
      (f (against answer past p).2)).2 := by
  induction p generalizing past with
  | halt r =>
    change _ = (against answer (past ++ []) (f r)).2
    rw [List.append_nil]
    rfl
  | ask q k ih =>
    change (against answer (past ++ [⟨q, answer past q⟩]) ((k (answer past q)).bind f)).2 = _
    rw [ih, List.append_assoc]
    rfl

/-- A run of a question is an answer and a run of what it goes on with. -/
lemma runs_ask {q : Q} {k : A q → Dialogue A R} :
    Runs (ask q k) t r ↔ ∃ a rest, t = ⟨q, a⟩ :: rest ∧ Runs (k a) rest r := by
  constructor
  · intro run
    cases run with
    | ask a rest => exact ⟨a, _, rfl, rest⟩
  · rintro ⟨a, rest, rfl, run⟩
    exact .ask a run

/-- A run of two dialogues in a row is a run of the first and a run of the second. -/
lemma runs_bind : Runs (p.bind f) t s ↔
    ∃ before after r, t = before ++ after ∧ Runs p before r ∧ Runs (f r) after s := by
  induction p generalizing t with
  | halt r =>
    constructor
    · intro run
      exact ⟨[], t, r, rfl, .halt r, run⟩
    · rintro ⟨before, after, r', rfl, first, second⟩
      cases first
      exact second
  | ask q k ih =>
    constructor
    · intro run
      obtain ⟨a, rest, rfl, goes⟩ := runs_ask.mp run
      obtain ⟨before, after, r, rfl, first, second⟩ := (ih a).mp goes
      exact ⟨⟨q, a⟩ :: before, after, r, rfl, .ask a first, second⟩
    · rintro ⟨before, after, r, rfl, first, second⟩
      obtain ⟨a, rest, rfl, goes⟩ := runs_ask.mp first
      exact .ask a ((ih a).mpr ⟨rest, after, r, rfl, goes, second⟩)

/-- The exchanges and the result of every run are as `post` says. -/
def Ensures (p : Dialogue A R) (post : List (Σ q, A q) → R → Prop) : Prop :=
  ∀ t r, Runs p t r → post t r

/-- The rule for a dialogue that has halted. -/
lemma ensures_halt {post : List (Σ q, A q) → R → Prop} (done : post [] r) :
    Ensures (halt r) post := by
  intro t r' run
  cases run
  exact done

/-- The rule for a question: whatever the answer. -/
lemma ensures_ask {post : List (Σ q, A q) → R → Prop} {q : Q} {k : A q → Dialogue A R}
    (next : ∀ a, Ensures (k a) fun t r => post (⟨q, a⟩ :: t) r) : Ensures (ask q k) post := by
  intro t r run
  obtain ⟨a, rest, rfl, goes⟩ := runs_ask.mp run
  exact next a rest r goes

/-- A judgement may be weakened. -/
lemma Ensures.mono {post post' : List (Σ q, A q) → R → Prop} (ensures : Ensures p post)
    (weaker : ∀ t r, post t r → post' t r) : Ensures p post' :=
  fun t r run => weaker t r (ensures t r run)

/-- The exchanges of the second dialogue come behind those of the first one. -/
lemma Ensures.bind {mid : List (Σ q, A q) → R → Prop} {post : List (Σ q, A q) → S → Prop}
    (first : Ensures p mid)
    (second : ∀ before r, mid before r → Ensures (f r) fun after s => post (before ++ after) s) :
    Ensures (p.bind f) post := by
  intro t s run
  obtain ⟨before, after, r, rfl, run, runs⟩ := runs_bind.mp run
  exact second before r (first before r run) after s runs

/-- The machine can follow every run of the dialogue from `s`, and the result and the state it ends
    in are as `post` says. -/
def Follows (step : σ → (Σ q, A q) → Option σ) (p : Dialogue A R) (s : σ) (post : R → σ → Prop) :
    Prop :=
  Ensures p fun t r => ∃ s', Machine.run step s t = some s' ∧ post r s'

variable {step : σ → (Σ q, A q) → Option σ} {post post' : R → σ → Prop} {s₀ s₁ : σ}

/-- A machine can follow a dialogue that has halted. -/
lemma follows_halt (done : post r s₀) : Follows step (halt r) s₀ post := by
  intro t r' run
  cases run
  exact ⟨s₀, rfl, done⟩

/-- The rule for a question: a step for every answer, and the rest from there. -/
lemma follows_ask {q : Q} {k : A q → Dialogue A R}
    (next : ∀ a, ∃ s, step s₀ ⟨q, a⟩ = some s ∧ Follows step (k a) s post) :
    Follows step (ask q k) s₀ post := by
  intro t r run
  obtain ⟨a, rest, rfl, goes⟩ := runs_ask.mp run
  obtain ⟨s, st, follows⟩ := next a
  obtain ⟨s', ran, done⟩ := follows rest r goes
  exact ⟨s', by rw [Machine.run, st]; exact ran, done⟩

/-- A postcondition may be weakened. -/
lemma Follows.mono (follows : Follows step p s₀ post) (weaker : ∀ r s, post r s → post' r s) :
    Follows step p s₀ post' := by
  intro t r run
  obtain ⟨s', ran, done⟩ := follows t r run
  exact ⟨s', ran, weaker r s' done⟩

/-- The second dialogue is followed from where the first one is left. -/
lemma Follows.bind {post : S → σ → Prop} {mid : R → σ → Prop} (first : Follows step p s₀ mid)
    (second : ∀ r s, mid r s → Follows step (f r) s post) : Follows step (p.bind f) s₀ post := by
  intro t s run
  obtain ⟨before, after, r, rfl, run, runs⟩ := runs_bind.mp run
  obtain ⟨s₁, ran, between⟩ := first before r run
  obtain ⟨s₂, rans, done⟩ := second r s₁ between after s runs
  exact ⟨s₂, by rw [Machine.run_append, ran]; exact rans, done⟩

/-- An invariant of the accumulator and the machine that each turn keeps holds after the loop. -/
lemma Follows.forEach {τ : Type} {f : τ → α → Dialogue A τ} {xs : List α}
    (inv : τ → σ → Prop) {acc : τ} (start : inv acc s₀)
    (turn : ∀ acc s, ∀ x ∈ xs, inv acc s → Follows step (f acc x) s inv) :
    Follows step (forEach f acc xs) s₀ inv := by
  induction xs generalizing acc s₀ with
  | nil => exact follows_halt start
  | cons x xs ih =>
    refine (turn acc s₀ x List.mem_cons_self start).bind fun acc s holds => ?_
    exact ih holds fun acc s y mem => turn acc s y (List.mem_cons_of_mem x mem)

/-- After the exchanges `t` the dialogue is the second one. -/
def Advances (p : Dialogue A R) (t : List (Σ q, A q)) (p' : Dialogue A R) : Prop :=
  ∀ t' r, Runs p' t' r → Runs p (t ++ t') r

/-- Without an exchange a dialogue stays as it is. -/
lemma advances_nil (p : Dialogue A R) : Advances p [] p := fun _ _ run => run

/-- An answer moves a question to what it goes on with. -/
lemma advances_ask {q : Q} (a : A q) (k : A q → Dialogue A R) : Advances (ask q k) [⟨q, a⟩] (k a) :=
  fun _ _ run => .ask a run

/-- What moves a dialogue moves it in front of another. -/
lemma Advances.bind {p' : Dialogue A R} (advances : Advances p t p') (f : R → Dialogue A S) :
    Advances (p.bind f) t (p'.bind f) := by
  intro t' s run
  obtain ⟨before, after, r, rfl, first, second⟩ := runs_bind.mp run
  refine runs_bind.mpr ⟨t ++ before, after, r, ?_, advances before r first, second⟩
  rw [List.append_assoc]

/-- A machine each of whose steps shows the next exchanges of what remains of a dialogue runs the
    dialogue. -/
lemma advances_run {ℓ : Type} {step : σ → ℓ → Option σ} {shows : σ → ℓ → List (Σ q, A q)}
    (rest : σ → Dialogue A R) (inv : σ → Prop)
    (keep : ∀ s l s', inv s → step s l = some s' → inv s')
    (next : ∀ s l s', inv s → step s l = some s' → Advances (rest s) (shows s l) (rest s'))
    {s s' : σ} {ls : List ℓ} (start : inv s) (run : Machine.run step s ls = some s') :
    Advances (rest s) (Machine.observed step shows s ls) (rest s') := by
  induction ls generalizing s with
  | nil =>
    cases run
    exact advances_nil _
  | cons l ls ih =>
    obtain ⟨s₁, st, run⟩ := Machine.run_cons_inv run
    rw [Machine.observed, st]
    intro t r runs
    rw [List.append_assoc]
    exact next s l s₁ start st _ r (ih (keep s l s₁ start st) run t r runs)

end Dialogue
