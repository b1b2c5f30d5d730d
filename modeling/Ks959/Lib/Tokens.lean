import Mathlib

/-!
# Tokens of a separated text

A text with separators falls into fields, which may be empty (`List.splitOnP`), and into `tokens`,
the fields that are not. `strtokS` is the tokenizer of the C runtime: a call skips separators, cuts
off a token and leaves the text behind the separator that ended it. `tokens_of_none` and
`tokens_of_some` say that the calls hand out the tokens in order; `tokens_eq_splitOnP` is where the
tokens are all the fields.
-/

namespace Tokens

variable {α : Type}

/-- `strtok_s`: the next token, and where the next call goes on. -/
def strtokS (delim : α → Bool) (text : List α) : Option (List α × List α) :=
  match text.dropWhile delim with
  | [] => none
  | c :: cs => some (c :: cs.takeWhile (fun c => !delim c), (cs.dropWhile (fun c => !delim c)).tail)

/-- The fields that are not empty. -/
def tokens (delim : α → Bool) (text : List α) : List (List α) :=
  (text.splitOnP delim).filter (· ≠ [])

variable {delim : α → Bool} {text token context : List α} {c : α}

/-- A token starts where the separators end, and it is followed by what the call leaves. -/
lemma strtokS_inv (found : strtokS delim text = some (token, context)) :
    ∃ c cs, text.dropWhile delim = c :: cs ∧ token = c :: cs.takeWhile (fun c => !delim c) ∧
      context = (cs.dropWhile fun c => !delim c).tail := by
  unfold strtokS at found
  split at found
  case h_1 => cases found
  case h_2 c cs start =>
    cases found
    exact ⟨c, cs, start, rfl, rfl⟩

/-- A call leaves less text than it was given. -/
lemma strtokS_shorter (found : strtokS delim text = some (token, context)) :
    context.length < text.length := by
  obtain ⟨c, cs, start, rfl, rfl⟩ := strtokS_inv found
  have skipped : (text.dropWhile delim).length ≤ text.length :=
    (List.dropWhile_suffix delim).length_le
  have cut : (cs.dropWhile fun c => !delim c).length ≤ cs.length :=
    (List.dropWhile_suffix _).length_le
  rw [start, List.length_cons] at skipped
  rw [List.length_tail]
  omega

/-- A separator at the front belongs to no token. -/
lemma tokens_cons_delim (sep : delim c = true) : tokens delim (c :: text) = tokens delim text := by
  rw [tokens, List.splitOnP_cons_eq_if_modifyHead, if_pos sep]
  exact List.filter_cons_of_neg (by simp)

/-- Delimiters in front of a text make no token. -/
lemma tokens_dropWhile : tokens delim (text.dropWhile delim) = tokens delim text := by
  induction text with
  | nil => rfl
  | cons c text ih =>
    cases sep : delim c with
    | true => rw [List.dropWhile_cons_of_pos sep, ih, tokens_cons_delim sep]
    | false => rw [List.dropWhile_cons_of_neg (by rw [sep]; decide)]

/-- A token in front of a separator. -/
lemma tokens_append_cons (nonempty : token ≠ []) (free : ∀ x ∈ token, delim x = false)
    (sep : delim c = true) : tokens delim (token ++ c :: text) = token :: tokens delim text := by
  rw [tokens, List.splitOnP_append_cons_of_forall_mem free c sep]
  exact List.filter_cons_of_pos (decide_eq_true nonempty)

/-- A token that is the whole text. -/
lemma tokens_singleton (nonempty : token ≠ []) (free : ∀ x ∈ token, delim x = false) :
    tokens delim token = [token] := by
  rw [tokens, List.splitOnP_eq_singleton free]
  exact List.filter_cons_of_pos (decide_eq_true nonempty)

/-- When there is no token left, there is none in the text. -/
theorem tokens_of_none (found : strtokS delim text = none) : tokens delim text = [] := by
  unfold strtokS at found
  split at found
  case h_1 start =>
    rw [← tokens_dropWhile, start]
    rfl
  case h_2 => cases found

/-- What is left when a run has been dropped starts where the run has stopped. -/
lemma stopped_of_dropWhile {p : α → Bool} {cs : List α} (rest : cs.dropWhile p = c :: text) :
    p c = false := by
  have nonempty : cs.dropWhile p ≠ [] := by
    rw [rest]
    exact List.cons_ne_nil c text
  have head := List.head_dropWhile_not p nonempty
  simpa only [rest, List.head_cons] using head

/-- What a call hands out is the first token, and it leaves the others. -/
theorem tokens_of_some (found : strtokS delim text = some (token, context)) :
    tokens delim text = token :: tokens delim context := by
  obtain ⟨c, cs, start, rfl, rfl⟩ := strtokS_inv found
  have free : ∀ x ∈ c :: cs.takeWhile (fun c => !delim c), delim x = false := by
    intro x mem
    cases mem with
    | head => exact stopped_of_dropWhile start
    | tail _ mem =>
      have kept := List.mem_takeWhile_imp mem
      rwa [Bool.not_eq_true'] at kept
  have cut := List.takeWhile_append_dropWhile (p := fun c => !delim c) (l := cs)
  rw [← tokens_dropWhile, start]
  nth_rewrite 1 [← cut]
  cases rest : cs.dropWhile fun c => !delim c with
  | nil =>
    rw [List.append_nil, tokens_singleton (List.cons_ne_nil _ _) free]
    rfl
  | cons sep context =>
    have stopped := stopped_of_dropWhile rest
    rw [Bool.not_eq_false'] at stopped
    rw [← List.cons_append, tokens_append_cons (List.cons_ne_nil _ _) free stopped]
    rfl

/-- Where no field is empty the tokens are the fields. -/
lemma tokens_eq_splitOnP (full : ∀ field ∈ text.splitOnP delim, field ≠ []) :
    tokens delim text = text.splitOnP delim :=
  List.filter_eq_self.mpr fun field mem => decide_eq_true (full field mem)

end Tokens
