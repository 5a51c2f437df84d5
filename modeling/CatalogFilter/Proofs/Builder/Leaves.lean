import CatalogFilter.Proofs.Builder.Run
import CatalogFilter.Proofs.Node.Factory

/-!
# The shape of a built filter

* `Call.IsFlat` — the expressions that a call is given are no conjunctions and no disjunctions.
* `Builder.sinceNegation` — the contributions from the last negation on, which are the ones that a root still shows.
* `Builder.leaves_of_run` — after every call of a run the root alternates, and its leaves are what the calls since
  the last negation were given, in the order of the calls.

A state is the one after the last of some calls, so the inductions here add contributions at the end.
-/

namespace CatalogFilter.Builder

/-! ## Flat calls -/

/-- Whether the expressions that a call is given are no conjunctions and no disjunctions; only a negation may be
given any expression. -/
def Call.IsFlat : Call → Prop
  | .add v => ∀ n, v = .ofNode n → n.IsLeaf
  | .and exprs => ∀ n, .ofNode n ∈ exprs → n.IsLeaf
  | .or exprs => ∀ n, .ofNode n ∈ exprs → n.IsLeaf
  | .not _ => True
  | .predicate factory _ => factory.isPredicate = true

namespace Contribution

/-- What a contribution shows of itself in the root. -/
def leaves : Contribution → List Node
  | .several _ ns => ns
  | .one n => [n]
  | .negation n => [.not n]

/-- Whether a contribution takes the place of the root. -/
def isNegation : Contribution → Bool
  | .negation _ => true
  | _ => false

end Contribution

/-- Flat calls bring in leaves. -/
theorem isLeaf_of_contribution? {c : Call} {k : Contribution} (flat : c.IsFlat) (h : c.contribution? = some k) :
    ∀ n ∈ k.leaves, n.IsLeaf := by
  intro n mem
  cases c with
  | add v =>
    obtain ⟨m, isNode, rfl⟩ := Option.map_eq_some_iff.1 h
    rw [Contribution.leaves, List.mem_singleton] at mem
    subst mem
    exact flat n (Value.node?_eq_some_iff.1 isNode)
  | and exprs =>
    obtain ⟨ns, held, rfl⟩ := Option.map_eq_some_iff.1 h
    have parts : exprs = ns.map .ofNode := Value.mapM_node?_eq_some_iff.1 held
    subst parts
    exact flat n (List.mem_map_of_mem mem)
  | or exprs =>
    obtain ⟨ns, held, rfl⟩ := Option.map_eq_some_iff.1 h
    have parts : exprs = ns.map .ofNode := Value.mapM_node?_eq_some_iff.1 held
    subst parts
    exact flat n (List.mem_map_of_mem mem)
  | not v =>
    obtain ⟨m, -, rfl⟩ := Option.map_eq_some_iff.1 h
    rw [Contribution.leaves, List.mem_singleton] at mem
    subst mem
    trivial
  | predicate factory args =>
    rw [Call.contribution?] at h
    split at h
    · rename_i m built
      cases h
      rw [Contribution.leaves, List.mem_singleton] at mem
      subst mem
      exact Factory.isLeaf_of_call flat built
    · cases h

/-! ## Since the last negation -/

/-- The contributions from the last negation on, or all of them if there is none. -/
def sinceNegation : List Contribution → List Contribution
  | [] => []
  | k :: rest => if rest.any Contribution.isNegation then sinceNegation rest else k :: rest

/-- A negation at the end is all that counts. -/
theorem sinceNegation_concat_negation (ks : List Contribution) (n : Node) :
    sinceNegation (ks ++ [.negation n]) = [.negation n] := by
  induction ks with
  | nil => rfl
  | cons k rest ih =>
    have ends : (rest ++ [Contribution.negation n]).any Contribution.isNegation = true := by
      simp [Contribution.isNegation]
    rw [List.cons_append, sinceNegation, if_pos ends, ih]

/-- Anything else at the end counts besides what counted before. -/
theorem sinceNegation_concat {k : Contribution} (other : k.isNegation = false) (ks : List Contribution) :
    sinceNegation (ks ++ [k]) = sinceNegation ks ++ [k] := by
  induction ks with
  | nil => rfl
  | cons first rest ih =>
    have same : (rest ++ [k]).any Contribution.isNegation = rest.any Contribution.isNegation := by
      simp [other]
    rw [List.cons_append, sinceNegation, sinceNegation, same]
    by_cases negated : rest.any Contribution.isNegation = true
    · rw [if_pos negated, if_pos negated, ih]
    · rw [if_neg negated, if_neg negated, List.cons_append]

/-! ## The invariant -/

/-- A root that alternates and has some leaves; no root has none. -/
def Shows (root : Option Node) (leaves : List Node) : Prop :=
  (∀ n, root = some n → n.Alternates) ∧ root.toList.flatMap Node.leaves = leaves

/-- Leaves that are combined with a root come behind its own. -/
theorem Shows.combine {root : Option Node} {leaves : List Node} (shows : Shows root leaves) (k : Connective)
    {ns : List Node} (flat : ∀ n ∈ ns, n.IsLeaf) : Shows (some (k.grow root ns)) (leaves ++ ns) := by
  obtain ⟨alternates, own⟩ := shows
  constructor
  · rintro _ ⟨⟩
    exact Connective.alternates_grow alternates flat
  · rw [Option.toList_some, List.flatMap_singleton, Connective.leaves_grow, own, Node.flatMap_leaves flat]

/-- A leaf alone shows itself. -/
theorem Shows.leaf {n : Node} (leaf : n.IsLeaf) : Shows (some n) [n] := by
  constructor
  · rintro _ ⟨⟩
    exact leaf.alternates
  · rw [Option.toList_some, List.flatMap_singleton, leaf.leaves_eq]

/-- What grows on a root shows behind it, and a negation shows alone. -/
theorem Shows.grow {root : Option Node} {ks : List Contribution} {k : Contribution}
    (shows : Shows root ((sinceNegation ks).flatMap Contribution.leaves)) (none : root = none → ks = [])
    (flat : ∀ n ∈ k.leaves, n.IsLeaf) :
    Shows (some (k.grow root)) ((sinceNegation (ks ++ [k])).flatMap Contribution.leaves) := by
  -- Whether the leaves so far still count depends on the last contribution alone.
  cases k with
  | several k ns =>
    rw [sinceNegation_concat rfl, List.flatMap_append, List.flatMap_singleton]
    exact shows.combine k flat
  | one n =>
    rw [sinceNegation_concat rfl, List.flatMap_append, List.flatMap_singleton]
    cases root with
    | none =>
      rw [none rfl]
      exact .leaf (flat n List.mem_cons_self)
    | some r => exact shows.combine .and flat
  | negation n =>
    rw [sinceNegation_concat_negation, List.flatMap_singleton]
    exact .leaf trivial

/-- Contributions show from the last negation on. -/
theorem shows_grown {ks : List Contribution} (flat : ∀ k ∈ ks, ∀ n ∈ k.leaves, n.IsLeaf) :
    Shows (grown none ks) ((sinceNegation ks).flatMap Contribution.leaves) := by
  induction ks using List.reverseRecOn with
  | nil => exact ⟨nofun, rfl⟩
  | append_singleton ks k ih =>
    rw [grown_concat]
    -- Only in front of the first contribution is there no root.
    refine (ih fun j hj => flat j (List.mem_append_left [k] hj)).grow (grown_none_eq_none_iff ks).1 ?_
    exact flat k (List.mem_append_right ks List.mem_cons_self)

/-- In every state of a run of flat calls on the empty builder the root alternates, and its leaves are, in the order
of the calls, what was brought in from the last negation on. -/
theorem leaves_of_run {calls : List Call} {b : Builder} (flat : ∀ c ∈ calls, c.IsFlat)
    (h : empty.run calls = .ok b) {before : List Call} (earlier : before <+: calls) :
    ∃ s, empty.run before = .ok s ∧
      ∃ ks : List Contribution, before.map Call.contribution? = ks.map some ∧
        (∀ n, s.root = some n → n.Alternates) ∧
        s.root.toList.flatMap Node.leaves = (sinceNegation ks).flatMap Contribution.leaves := by
  obtain ⟨rest, rfl⟩ := earlier
  obtain ⟨s, first, -⟩ := run_append_eq_ok.1 h
  obtain ⟨ks, bring, root⟩ := root_of_run first
  have flatBefore : ∀ k ∈ ks, ∀ n ∈ k.leaves, n.IsLeaf := by
    intro k mem
    have brought : some k ∈ before.map Call.contribution? := by
      rw [bring]
      exact List.mem_map_of_mem mem
    obtain ⟨c, called, brings⟩ := List.mem_map.1 brought
    exact isLeaf_of_contribution? (flat c (List.mem_append_left rest called)) brings
  have start : empty.root = none := rfl
  rw [start] at root
  refine ⟨s, first, ks, bring, ?_⟩
  rw [root]
  exact shows_grown flatBefore

/-- The leaves of the sample filter are those of the sample calls since the negation. -/
theorem leaves_of_run_sampleCalls :
    (∀ c ∈ sampleCalls, c.IsFlat) ∧ empty.run sampleCalls = .ok ⟨some sampleRoot⟩ ∧ sampleCalls <+: sampleCalls ∧
      ∃ s, empty.run sampleCalls = .ok s ∧
        ∃ ks : List Contribution, sampleCalls.map Call.contribution? = ks.map some ∧
          (∀ n, s.root = some n → n.Alternates) ∧
          s.root.toList.flatMap Node.leaves = (sinceNegation ks).flatMap Contribution.leaves := by
  have flat : ∀ c ∈ sampleCalls, c.IsFlat := by
    simp [sampleCalls, Call.IsFlat, Factory.isPredicate, Value.ofNode, Node.IsLeaf]
  exact ⟨flat, run_sampleCalls, List.prefix_refl _, leaves_of_run flat run_sampleCalls (List.prefix_refl _)⟩

end CatalogFilter.Builder
