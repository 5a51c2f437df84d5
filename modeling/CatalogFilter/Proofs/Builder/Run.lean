import CatalogFilter.Proofs.Node.Connectives
import CatalogFilter.Proofs.Node.Construct

/-!
# What calls make of the root of a builder

* `Builder.Contribution` — the nodes that a call brings in, and how they join the root.
* `Builder.step_eq_ok` — everything that a call can do: its contribution grows on the root.
* `Builder.root_of_run` — after calls that all succeed the root is what their contributions have grown into, one
  after the other.

How the root is looked at, extended and wrapped is settled here once; later proofs are about `Contribution.grow`.
-/

namespace CatalogFilter

open Outcome

/-! ## Combining -/

/-- A connective is made of connectives and predicates. -/
theorem Connective.construct_eq_ok {k : Connective} {vs : List Value} {n : Node} :
    k.construct vs = .ok n ↔ ∃ ns, vs = ns.map .ofNode ∧ (∀ m ∈ ns, m.isExpression = true) ∧ k.node ns = n := by
  cases k with
  | and => exact Construct.conjunction_eq_ok
  | or => exact Construct.disjunction_eq_ok

/-- Values are all nodes exactly when they were made of nodes. -/
theorem Value.mapM_node?_eq_some_iff {vs : List Value} {ns : List Node} :
    vs.mapM node? = some ns ↔ vs = ns.map ofNode := by
  induction vs generalizing ns with
  | nil => cases ns <;> simp
  | cons v rest ih =>
    rw [cons_eq_map_ofNode]
    simp only [List.mapM_cons, Option.bind_eq_bind, Option.bind_eq_some_iff, Option.pure_def, Option.some.injEq,
      node?_eq_some_iff, ih]
    constructor
    · rintro ⟨n, rfl, others, rfl, rfl⟩
      exact ⟨n, others, rfl, rfl, rfl⟩
    · rintro ⟨n, others, rfl, rfl, rfl⟩
      exact ⟨n, rfl, others, rfl, rfl⟩

/-- Values behind nodes are nodes if all of them together are. -/
theorem Value.append_eq_map_ofNode {xs ns : List Node} {vs : List Value}
    (h : xs.map ofNode ++ vs = ns.map ofNode) : ∃ rest, vs = rest.map ofNode ∧ ns = xs ++ rest := by
  obtain ⟨first, rest, rfl, same, rfl⟩ := List.map_eq_append_iff.1 h.symm
  have : first = xs := List.map_injective_iff.2 ofNode_injective same
  subst this
  exact ⟨rest, rfl, rfl⟩

namespace Builder

/-- Expressions that are combined with a root grow on it. -/
theorem combine_eq_ok {k : Connective} {root : Option Node} {exprs : List Value} {n : Node}
    (h : combine k root exprs = .ok n) :
    ∃ ns, exprs = ns.map .ofNode ∧ (∀ m ∈ ns, m.isExpression = true) ∧ k.grow root ns = n := by
  unfold combine at h
  cases root with
  | none => exact Connective.construct_eq_ok.1 h
  | some r =>
    cases found : k.children? r with
    | some children =>
      simp only [found] at h
      obtain ⟨all, parts, each, rfl⟩ := Connective.construct_eq_ok.1 h
      -- The children of the root are offered once more, in front of the expressions of the call.
      obtain ⟨ns, rfl, rfl⟩ := Value.append_eq_map_ofNode parts
      refine ⟨ns, rfl, fun m hm => each m (List.mem_append_right children hm), ?_⟩
      rw [Connective.grow, found]
    | none =>
      simp only [found] at h
      obtain ⟨all, parts, each, rfl⟩ := Connective.construct_eq_ok.1 h
      obtain ⟨first, ns, same, rfl, rfl⟩ := Value.cons_eq_map_ofNode.1 parts
      have : first = r := Value.ofNode_injective same.symm
      subst this
      refine ⟨ns, rfl, fun m hm => each m (List.mem_cons_of_mem first hm), ?_⟩
      rw [Connective.grow_other found]

/-! ## Contributions -/

/-- What a call brings in. -/
inductive Contribution where
  /-- Expressions, all of them joined by a connective. -/
  | several (k : Connective) (ns : List Node)
  /-- An expression that holds besides the root. -/
  | one (n : Node)
  /-- An expression whose negation takes the place of the root. -/
  | negation (n : Node)

namespace Contribution

/-- The expressions brought in. -/
def nodes : Contribution → List Node
  | .several _ ns => ns
  | .one n => [n]
  | .negation n => [n]

/-- The root after a contribution. -/
def grow (root : Option Node) : Contribution → Node
  | .several k ns => k.grow root ns
  | .one n =>
    match root with
    | none => n
    | some _ => Connective.and.grow root [n]
  | .negation n => .not n

end Contribution

/-- What a call brings in, if its arguments are nodes or are such that a node can be built from them. -/
def Call.contribution? : Call → Option Contribution
  | .add v => v.node?.map .one
  | .and exprs => (exprs.mapM Value.node?).map (.several .and)
  | .or exprs => (exprs.mapM Value.node?).map (.several .or)
  | .not v => v.node?.map .negation
  | .predicate factory args =>
    match factory.call args with
    | .ok n => some (.one n)
    | .error _ => none

/-! ## One call -/

/-- An expression that is added grows on the root. -/
theorem addTo_eq_ok {root : Option Node} {v : Value} {n : Node} (h : addTo root v = .ok n) :
    ∃ m, v = .ofNode m ∧ m.isExpression = true ∧ (Contribution.one m).grow root = n := by
  unfold addTo at h
  split at h
  · rename_i m isNode
    have held : v = .ofNode m := Value.node?_eq_some_iff.1 isNode
    split at h
    · rename_i isExpression
      refine ⟨m, held, isExpression, ?_⟩
      cases root with
      | none => exact Except.ok.inj h
      | some r =>
        obtain ⟨ns, single, -, grown⟩ := combine_eq_ok h
        obtain ⟨first, rest, same, none, rfl⟩ := Value.cons_eq_map_ofNode.1 single
        have alone : rest = [] := List.map_eq_nil_iff.1 none.symm
        have this : first = m := Value.ofNode_injective (same.symm.trans held)
        subst alone this
        exact grown
    · cases h
  · cases h

/-- What a call does if it succeeds: its contribution, which consists of expressions, grows on the root. -/
theorem step_eq_ok {root : Option Node} {c : Call} {n : Node} (h : step root c = .ok n) :
    ∃ k, c.contribution? = some k ∧ (∀ m ∈ k.nodes, m.isExpression = true) ∧ k.grow root = n := by
  cases c with
  | add v =>
    obtain ⟨m, rfl, isExpression, grown⟩ := addTo_eq_ok (liftParse_eq_ok.1 h)
    exact ⟨.one m, rfl, by simpa [Contribution.nodes] using isExpression, grown⟩
  | and exprs =>
    obtain ⟨ns, rfl, each, grown⟩ := combine_eq_ok (liftParse_eq_ok.1 h)
    refine ⟨.several .and ns, ?_, each, grown⟩
    rw [Call.contribution?, Value.mapM_node?_eq_some_iff.2 rfl, Option.map_some]
  | or exprs =>
    obtain ⟨ns, rfl, each, grown⟩ := combine_eq_ok (liftParse_eq_ok.1 h)
    refine ⟨.several .or ns, ?_, each, grown⟩
    rw [Call.contribution?, Value.mapM_node?_eq_some_iff.2 rfl, Option.map_some]
  | not v =>
    obtain ⟨m, rfl, isExpression, negated⟩ := Construct.negation_eq_ok.1 (liftParse_eq_ok.1 h)
    exact ⟨.negation m, rfl, by simpa [Contribution.nodes] using isExpression, negated⟩
  | predicate factory args =>
    obtain ⟨p, built, added⟩ := bind_eq_ok.1 h
    obtain ⟨m, same, isExpression, grown⟩ := addTo_eq_ok (liftParse_eq_ok.1 added)
    have : p = m := Value.ofNode_injective same
    subst this
    refine ⟨.one p, ?_, by simpa [Contribution.nodes] using isExpression, grown⟩
    rw [Call.contribution?, built]

/-! ## Runs -/

/-- A run is a first call and a run of the others. -/
theorem run_cons_eq_ok {b b' : Builder} {c : Call} {rest : List Call} :
    b.run (c :: rest) = .ok b' ↔ ∃ n, step b.root c = .ok n ∧ run ⟨some n⟩ rest = .ok b' := by
  rw [run, bind_eq_ok]

/-- A run of some calls and then of others. -/
theorem run_append_eq_ok {b b' : Builder} {before rest : List Call} :
    b.run (before ++ rest) = .ok b' ↔ ∃ s, b.run before = .ok s ∧ s.run rest = .ok b' := by
  induction before generalizing b with
  | nil => simp [run]
  | cons c before ih =>
    rw [List.cons_append, run_cons_eq_ok]
    simp only [run_cons_eq_ok, ih]
    constructor
    · rintro ⟨n, first, s, others, last⟩
      exact ⟨s, ⟨n, first, others⟩, last⟩
    · rintro ⟨s, ⟨n, first, others⟩, last⟩
      exact ⟨n, first, s, others, last⟩

/-- The root after contributions, one after the other. -/
def grown (root : Option Node) (ks : List Contribution) : Option Node :=
  ks.foldl (fun r k => some (k.grow r)) root

@[simp] theorem grown_nil (root : Option Node) : grown root [] = root := rfl

@[simp] theorem grown_cons (root : Option Node) (k : Contribution) (ks : List Contribution) :
    grown root (k :: ks) = grown (some (k.grow root)) ks := rfl

@[simp] theorem grown_concat (root : Option Node) (ks : List Contribution) (k : Contribution) :
    grown root (ks ++ [k]) = some (k.grow (grown root ks)) := by
  rw [grown, List.foldl_append]
  rfl

/-- There is a root as soon as there was a contribution. -/
theorem grown_none_eq_none_iff (ks : List Contribution) : grown none ks = none ↔ ks = [] := by
  induction ks using List.reverseRecOn with
  | nil => simp
  | append_singleton ks k _ => simp

/-- Calls that all succeed grow into the root one after the other. -/
theorem root_of_run {b b' : Builder} {calls : List Call} (h : b.run calls = .ok b') :
    ∃ ks, calls.map Call.contribution? = ks.map some ∧ b'.root = grown b.root ks := by
  induction calls generalizing b with
  | nil =>
    cases h
    exact ⟨[], rfl, rfl⟩
  | cons c rest ih =>
    obtain ⟨n, first, others⟩ := run_cons_eq_ok.1 h
    obtain ⟨k, brings, -, rfl⟩ := step_eq_ok first
    obtain ⟨ks, bring, root⟩ := ih others
    refine ⟨k :: ks, ?_, root⟩
    rw [List.map_cons, brings, bring, List.map_cons]

/-! ## A sample run -/

/-- A predicate, a disjunction with two more, and then the negation of a conjunction, which is extended by a
disjunction and conjoined with a predicate. -/
def sampleCalls : List Call :=
  [.predicate (.comparison .eq) ⟨[.str "collection", .str "landsat"], []⟩,
    .or [.ofNode (.isNull ⟨"gsd"⟩), .ofNode (.not (.isNull ⟨"platform"⟩))],
    .not (.ofNode (.and [.isNull ⟨"gsd"⟩, .isNull ⟨"platform"⟩])),
    .or [.ofNode (.isNull ⟨"created"⟩)],
    .predicate .isNull ⟨[.str "updated"], []⟩]

/-- The filter that the sample calls build. -/
def sampleRoot : Node :=
  .and [.or [.not (.and [.isNull ⟨"gsd"⟩, .isNull ⟨"platform"⟩]), .isNull ⟨"created"⟩], .isNull ⟨"updated"⟩]

theorem run_sampleCalls : empty.run sampleCalls = .ok ⟨some sampleRoot⟩ := rfl

end Builder

end CatalogFilter
