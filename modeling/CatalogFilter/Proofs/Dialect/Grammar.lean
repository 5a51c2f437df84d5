import CatalogFilter.Node.Basic
import Mathlib

/-!
# The grammar of Boolean expressions

* `Token` — parentheses, connectives, and predicates as single tokens.
* `Formula` — an expression as it is read; `Formula.eval` is its truth.
* `Grammar.Reads` — the usual grammar: a negation binds tighter than a conjunction, and a conjunction tighter than a
  disjunction.
* `Grammar.Reads.unique` — tokens are read in one way only.
* `Grammar.Means` — tokens have a reading of a truth; `Grammar.Means.conjunctions` and `Grammar.Means.disjunctions` are
  about rows of expressions with connectives between them.
-/

namespace CatalogFilter

/-- A token of a Boolean expression; a predicate is one token. -/
inductive Token where
  | left
  | right
  | and
  | or
  | not
  | predicate (n : Node)

/-- A Boolean expression. -/
inductive Formula where
  | predicate (n : Node)
  | not (f : Formula)
  | and (f g : Formula)
  | or (f g : Formula)

/-- The truth of an expression under truth values of its predicates. -/
def Formula.eval (v : Node → Bool) : Formula → Bool
  | .predicate n => v n
  | .not f => !f.eval v
  | .and f g => f.eval v && g.eval v
  | .or f g => f.eval v || g.eval v

namespace Grammar

/-- How tight an expression binds. -/
inductive Level where
  | negation
  | conjunction
  | disjunction

/-- The expressions that tokens are read as: a negation is a predicate, an expression in parentheses, or `not` and a
negation; a conjunction is a row of negations, and a disjunction a row of conjunctions. -/
inductive Reads : Level → List Token → Formula → Prop where
  | predicate (n : Node) : Reads .negation [.predicate n] (.predicate n)
  | group {ts : List Token} {f : Formula} (inner : Reads .disjunction ts f) :
      Reads .negation (.left :: (ts ++ [.right])) f
  | not {ts : List Token} {f : Formula} (inner : Reads .negation ts f) : Reads .negation (.not :: ts) (.not f)
  | negation {ts : List Token} {f : Formula} (inner : Reads .negation ts f) : Reads .conjunction ts f
  | and {ts us : List Token} {f g : Formula} (first : Reads .negation ts f) (others : Reads .conjunction us g) :
      Reads .conjunction (ts ++ .and :: us) (.and f g)
  | conjunction {ts : List Token} {f : Formula} (inner : Reads .conjunction ts f) : Reads .disjunction ts f
  | or {ts us : List Token} {f g : Formula} (first : Reads .conjunction ts f) (others : Reads .disjunction us g) :
      Reads .disjunction (ts ++ .or :: us) (.or f g)

/-! ## One reading only -/

/-- Whether an expression of a level does not go on in a row of tokens. -/
def Level.Ends : Level → List Token → Prop
  | .negation, _ => True
  | .conjunction, rest => rest.head? ≠ some .and
  | .disjunction, rest => rest.head? ≠ some .and ∧ rest.head? ≠ some .or

theorem Level.ends_nil (level : Level) : level.Ends [] := by
  cases level <;> simp [Ends]

theorem Level.ends_right (level : Level) (rest : List Token) : level.Ends (.right :: rest) := by
  cases level <;> simp [Ends]

theorem Level.ends_or (rest : List Token) : Level.conjunction.Ends (.or :: rest) := by
  simp [Ends]

variable {level : Level} {ts us rest rest' : List Token} {f g : Formula}

/-- Two readings in front of tokens in which neither goes on are the same reading of the same tokens. -/
theorem Reads.prefix_unique (h : Reads level ts f) (k : Reads level us g) (ends : level.Ends rest)
    (ends' : level.Ends rest') (same : ts ++ rest = us ++ rest') : ts = us ∧ f = g := by
  induction h generalizing us g rest rest' with
  | predicate n =>
    cases k with
    | predicate m =>
      cases same
      exact ⟨rfl, rfl⟩
    | group inner => cases same
    | not inner => cases same
  | @group ts f inner ih =>
    cases k with
    | predicate m => cases same
    | not inner => cases same
    | @group us g inner' =>
      rw [List.cons_append, List.cons_append, List.append_assoc, List.append_assoc] at same
      obtain ⟨tokens, formula⟩ := ih inner' (Level.ends_right _ _) (Level.ends_right _ _) (List.cons.inj same).2
      exact ⟨by rw [tokens], formula⟩
  | @not ts f inner ih =>
    cases k with
    | predicate m => cases same
    | group inner => cases same
    | @not us g inner' =>
      obtain ⟨tokens, formula⟩ := ih inner' ends ends' (List.cons.inj same).2
      exact ⟨by rw [tokens], by rw [formula]⟩
  | @negation ts f inner ih =>
    cases k with
    | negation inner' => exact ih inner' trivial trivial same
    | @and us us' g g' first others =>
      rw [List.append_assoc] at same
      obtain ⟨rfl, -⟩ := ih first trivial trivial same
      rw [List.append_cancel_left_eq] at same
      exact absurd (by rw [same]; rfl) ends
  | @and ts ts' f f' first others ih ihOthers =>
    rw [List.append_assoc] at same
    cases k with
    | negation inner =>
      obtain ⟨rfl, -⟩ := ih inner trivial trivial same
      rw [List.append_cancel_left_eq] at same
      exact absurd (by rw [← same]; rfl) ends'
    | @and us us' g g' first' others' =>
      rw [List.append_assoc] at same
      obtain ⟨rfl, rfl⟩ := ih first' trivial trivial same
      rw [List.append_cancel_left_eq] at same
      obtain ⟨rfl, rfl⟩ := ihOthers others' ends ends' (List.cons.inj same).2
      exact ⟨rfl, rfl⟩
  | @conjunction ts f inner ih =>
    cases k with
    | conjunction inner' => exact ih inner' ends.1 ends'.1 same
    | @or us us' g g' first others =>
      rw [List.append_assoc] at same
      obtain ⟨rfl, -⟩ := ih first ends.1 (Level.ends_or _) same
      rw [List.append_cancel_left_eq] at same
      exact absurd (by rw [same]; rfl) ends.2
  | @or ts ts' f f' first others ih ihOthers =>
    rw [List.append_assoc] at same
    cases k with
    | conjunction inner =>
      obtain ⟨rfl, -⟩ := ih inner (Level.ends_or _) ends'.1 same
      rw [List.append_cancel_left_eq] at same
      exact absurd (by rw [← same]; rfl) ends'.2
    | @or us us' g g' first' others' =>
      rw [List.append_assoc] at same
      obtain ⟨rfl, rfl⟩ := ih first' (Level.ends_or _) (Level.ends_or _) same
      rw [List.append_cancel_left_eq] at same
      obtain ⟨rfl, rfl⟩ := ihOthers others' ends ends' (List.cons.inj same).2
      exact ⟨rfl, rfl⟩

/-- Tokens are read in one way only. -/
theorem Reads.unique (h : Reads .disjunction ts f) (k : Reads .disjunction ts g) : f = g := by
  have same : ts ++ [] = ts ++ [] := rfl
  exact (h.prefix_unique k (Level.ends_nil _) (Level.ends_nil _) same).2

/-! ## Readings and their truth -/

/-- A reading of tokens together with the truth that it has. -/
def Means (level : Level) (ts : List Token) (truth : (Node → Bool) → Bool) : Prop :=
  ∃ f, Reads level ts f ∧ ∀ v, f.eval v = truth v

theorem Means.predicate (n : Node) : Means .negation [.predicate n] fun v => v n :=
  ⟨.predicate n, .predicate n, fun _ => rfl⟩

/-- What is a conjunction at most is a conjunction. -/
theorem Means.conjunction {truth : (Node → Bool) → Bool} (h : Means .negation ts truth) : Means .conjunction ts truth := by
  obtain ⟨f, reads, means⟩ := h
  exact ⟨f, .negation reads, means⟩

/-- Every expression is a disjunction. -/
theorem Means.disjunction {truth : (Node → Bool) → Bool} (h : Means level ts truth) : Means .disjunction ts truth := by
  obtain ⟨f, reads, means⟩ := h
  cases level with
  | negation => exact ⟨f, .conjunction (.negation reads), means⟩
  | conjunction => exact ⟨f, .conjunction reads, means⟩
  | disjunction => exact ⟨f, reads, means⟩

/-- Every expression in parentheses is a negation. -/
theorem Means.group {truth : (Node → Bool) → Bool} (h : Means level ts truth) :
    Means .negation (.left :: (ts ++ [.right])) truth := by
  obtain ⟨f, reads, means⟩ := h.disjunction
  exact ⟨f, .group reads, means⟩

theorem Means.not {truth : (Node → Bool) → Bool} (h : Means .negation ts truth) :
    Means .negation (.not :: ts) fun v => !truth v := by
  obtain ⟨f, reads, means⟩ := h
  exact ⟨.not f, .not reads, fun v => by rw [Formula.eval, means]⟩

variable {tss : List (List Token)} {truths : List ((Node → Bool) → Bool)}

/-- A row of negations is a conjunction that is true when all of them are. -/
theorem Means.conjunctions (nonempty : tss ≠ []) (each : List.Forall₂ (Means .negation) tss truths) :
    Means .conjunction ([.and].intercalate tss) fun v => truths.all (· v) := by
  induction each with
  | nil => exact absurd rfl nonempty
  | @cons ts truth tss truths first others ih =>
    obtain ⟨f, reads, means⟩ := first
    cases others with
    | nil => exact ⟨f, by simpa using .negation reads, fun v => by simp [means]⟩
    | cons second others =>
      obtain ⟨g, reads', means'⟩ := ih nofun
      refine ⟨.and f g, ?_, fun v => ?_⟩
      · rw [List.intercalate_cons_cons, List.append_assoc]
        exact .and reads reads'
      · rw [Formula.eval, means, means']
        rfl

/-- A row of conjunctions is a disjunction that is true when one of them is. -/
theorem Means.disjunctions (nonempty : tss ≠ []) (each : List.Forall₂ (Means .conjunction) tss truths) :
    Means .disjunction ([.or].intercalate tss) fun v => truths.any (· v) := by
  induction each with
  | nil => exact absurd rfl nonempty
  | @cons ts truth tss truths first others ih =>
    obtain ⟨f, reads, means⟩ := first
    cases others with
    | nil => exact ⟨f, by simpa using .conjunction reads, fun v => by simp [means]⟩
    | cons second others =>
      obtain ⟨g, reads', means'⟩ := ih nofun
      refine ⟨.or f g, ?_, fun v => ?_⟩
      · rw [List.intercalate_cons_cons, List.append_assoc]
        exact .or reads reads'
      · rw [Formula.eval, means, means']
        rfl

end Grammar

end CatalogFilter
