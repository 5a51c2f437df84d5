import CatalogFilter.Proofs.Builder.Run

/-!
# The truth of a built filter

* `Contribution.meaning` — the truth after a call, from the truth before it and the truth of what it brings in.
* `Builder.truth_of_run` — the truth of a built filter is the fold of its calls, whatever the predicates mean.

The meaning looks at truths only, and never at the shape of the root: extending a connective and wrapping another
root are one and the same to it.
-/

namespace CatalogFilter.Builder

/-- The truth after a call. A first call is true as what it brings in; a later one is also about the truth before
it, unless it is a negation. -/
def Contribution.meaning (v : Node → Bool) (acc : Option Bool) : Contribution → Bool
  | .several k ns =>
    match acc with
    | none => k.holds (Node.truth v) ns
    | some a => k.both a (k.holds (Node.truth v) ns)
  | .one n =>
    match acc with
    | none => n.truth v
    | some a => a && n.truth v
  | .negation n => !n.truth v

/-- The root after a contribution is true as the contribution means it to be. -/
theorem Contribution.truth_grow (v : Node → Bool) (root : Option Node) (k : Contribution) :
    (k.grow root).truth v = k.meaning v (root.map (Node.truth v)) := by
  cases k with
  | several k ns =>
    cases root with
    | none => exact Connective.truth_node ns
    | some r => exact Connective.truth_grow r ns
  | one n =>
    cases root with
    | none => rfl
    | some r =>
      have single : Connective.and.holds (Node.truth v) [n] = n.truth v := Bool.and_true _
      rw [grow, Connective.truth_grow, single]
      rfl
  | negation n => rw [grow, Node.truth, meaning]

/-- The truth after contributions is the fold of what they mean. -/
theorem truth_grown (v : Node → Bool) (root : Option Node) (ks : List Contribution) :
    (grown root ks).map (Node.truth v) =
      ks.foldl (fun acc k => some (k.meaning v acc)) (root.map (Node.truth v)) := by
  induction ks generalizing root with
  | nil => rfl
  | cons k rest ih => rw [grown_cons, ih, List.foldl_cons, Option.map_some, Contribution.truth_grow]

/-- Calls on the empty builder that all succeed have brought in expressions whose meanings, folded in the order of
the calls, are the truth of the root under every truth of the predicates; and there is no root exactly when there
was no call. -/
theorem truth_of_run {calls : List Call} {b : Builder} (h : empty.run calls = .ok b) :
    ∃ ks : List Contribution, calls.map Call.contribution? = ks.map some ∧
      (∀ v : Node → Bool, b.root.map (Node.truth v) = ks.foldl (fun acc k => some (k.meaning v acc)) none) ∧
      (b.root = none ↔ calls = []) := by
  obtain ⟨ks, bring, root⟩ := root_of_run h
  have start : empty.root = none := rfl
  rw [start] at root
  refine ⟨ks, bring, fun v => ?_, ?_⟩
  · rw [root, truth_grown]
    rfl
  · have none : calls = [] ↔ ks = [] := by
      rw [← List.map_eq_nil_iff (f := Call.contribution?), bring, List.map_eq_nil_iff]
    rw [root, grown_none_eq_none_iff, none]

/-- The truth of the sample filter is the fold of the sample calls. -/
theorem truth_of_run_sampleCalls :
    empty.run sampleCalls = .ok ⟨some sampleRoot⟩ ∧
      ∃ ks : List Contribution, sampleCalls.map Call.contribution? = ks.map some ∧
        (∀ v : Node → Bool, some (sampleRoot.truth v) = ks.foldl (fun acc k => some (k.meaning v acc)) none) ∧
        (some sampleRoot = none ↔ sampleCalls = []) :=
  ⟨run_sampleCalls, truth_of_run run_sampleCalls⟩

end CatalogFilter.Builder
