import CatalogFilter.Proofs.Builder.Run
import CatalogFilter.Proofs.Document.Assembly
import CatalogFilter.Proofs.Node.Factory

/-!
# The rules of nodes in all trees that are handed out

* `Connective.isFilter_node`, `Connective.isFilter_grow` — connectives of filters are filters.
* `Builder.isFilter_of_foldl` — after any calls, failed ones among them, the root is a filter.
* `HandedOut.keepsRules` — a tree keeps the rules at every depth, whether it was read from a document, built by a
  factory, or left as the root of a builder.

That a literal has the kind of its value, that times have an offset, that a date has no time of day, and which
variants the sides of a relation have, is part of the type of a node; `Node.WellFormed` says the rest.
-/

namespace CatalogFilter

open Outcome

/-! ## Filters -/

/-- Whether a tree is a connective or predicate that keeps the rules. -/
def Node.IsFilter (n : Node) : Prop :=
  n.WellFormed ∧ n.isExpression = true

namespace Connective

/-- A connective of trees is a filter exactly when they are. -/
theorem isFilter_node {k : Connective} {ns : List Node} : (k.node ns).IsFilter ↔ ∀ n ∈ ns, n.IsFilter := by
  have parts : (k.node ns).WellFormed ↔ (∀ n ∈ ns, n.WellFormed) ∧ ∀ n ∈ ns, n.isExpression = true := by
    cases k with
    | and => rw [node, Node.WellFormed, Node.allWellFormed_iff]
    | or => rw [node, Node.WellFormed, Node.allWellFormed_iff]
  have expression : (k.node ns).isExpression = true := by
    cases k <;> rfl
  unfold Node.IsFilter
  rw [parts, ← forall₂_and]
  exact and_iff_left expression

/-- Filters that grow on a filter make a filter. -/
theorem isFilter_grow {k : Connective} {root : Option Node} {ns : List Node}
    (rootFilter : ∀ n, root = some n → n.IsFilter) (filters : ∀ n ∈ ns, n.IsFilter) : (k.grow root ns).IsFilter := by
  cases root with
  | none => exact isFilter_node.2 filters
  | some n =>
    have first : n.IsFilter := rootFilter n rfl
    cases found : k.children? n with
    | some children =>
      have same : n = k.node children := children?_eq_some_iff.1 found
      subst same
      rw [grow_node, isFilter_node]
      intro m hm
      rcases List.mem_append.1 hm with hm | hm
      · exact isFilter_node.1 first m hm
      · exact filters m hm
    | none =>
      rw [grow_other found, isFilter_node, List.forall_mem_cons]
      exact ⟨first, filters⟩

end Connective

namespace Builder

/-! ## Calls -/

/-- Whether every node inside an argument of a call keeps the rules. -/
def Call.Sound : Call → Prop
  | .add v => v.Sound
  | .and exprs => ∀ v ∈ exprs, v.Sound
  | .or exprs => ∀ v ∈ exprs, v.Sound
  | .not v => v.Sound
  | .predicate _ args => args.Sound

/-- Sound calls bring in trees that keep the rules. -/
theorem wellFormed_of_contribution? {c : Call} {k : Contribution} (sound : c.Sound) (h : c.contribution? = some k) :
    ∀ n ∈ k.nodes, n.WellFormed := by
  intro n mem
  cases c with
  | add v =>
    obtain ⟨m, isNode, rfl⟩ := Option.map_eq_some_iff.1 h
    rw [Contribution.nodes, List.mem_singleton] at mem
    rw [mem, ← Value.sound_ofNode, ← Value.node?_eq_some_iff.1 isNode]
    exact sound
  | and exprs =>
    obtain ⟨ns, held, rfl⟩ := Option.map_eq_some_iff.1 h
    have parts : exprs = ns.map .ofNode := Value.mapM_node?_eq_some_iff.1 held
    subst parts
    exact Value.sound_ofNode.1 (sound _ (List.mem_map_of_mem mem))
  | or exprs =>
    obtain ⟨ns, held, rfl⟩ := Option.map_eq_some_iff.1 h
    have parts : exprs = ns.map .ofNode := Value.mapM_node?_eq_some_iff.1 held
    subst parts
    exact Value.sound_ofNode.1 (sound _ (List.mem_map_of_mem mem))
  | not v =>
    obtain ⟨m, isNode, rfl⟩ := Option.map_eq_some_iff.1 h
    rw [Contribution.nodes, List.mem_singleton] at mem
    rw [mem, ← Value.sound_ofNode, ← Value.node?_eq_some_iff.1 isNode]
    exact sound
  | predicate factory args =>
    rw [Call.contribution?] at h
    split at h
    · rename_i m built
      cases h
      rw [Contribution.nodes, List.mem_singleton] at mem
      subst mem
      exact Factory.wellFormed_of_call sound built
    · cases h

/-! ## Roots -/

/-- Contributions of filters to a filter make a filter. -/
theorem Contribution.isFilter_grow {root : Option Node} {k : Contribution}
    (rootFilter : ∀ n, root = some n → n.IsFilter) (filters : ∀ n ∈ k.nodes, n.IsFilter) :
    (k.grow root).IsFilter := by
  cases k with
  | several k ns => exact Connective.isFilter_grow rootFilter filters
  | one n =>
    cases root with
    | none => exact filters n List.mem_cons_self
    | some r => exact Connective.isFilter_grow rootFilter filters
  | negation n =>
    have negated : n.IsFilter := filters n List.mem_cons_self
    exact ⟨negated, rfl⟩

/-- A sound call leaves a filter as the root if there was one or none: if it fails the root stays, and if it succeeds
filters have grown on it. -/
theorem isFilter_after {b : Builder} {c : Call} (sound : c.Sound) (before : ∀ n, b.root = some n → n.IsFilter) :
    ∀ n, (b.after c).root = some n → n.IsFilter := by
  cases stepped : step b.root c with
  | error e =>
    rw [after_of_error stepped]
    exact before
  | ok n =>
    rw [after_of_ok stepped]
    rintro _ ⟨⟩
    obtain ⟨k, brings, expressions, rfl⟩ := step_eq_ok stepped
    have wellFormed : ∀ m ∈ k.nodes, m.WellFormed := wellFormed_of_contribution? sound brings
    exact Contribution.isFilter_grow before fun m mem => ⟨wellFormed m mem, expressions m mem⟩

/-- After any sound calls, failed ones among them, the root is a filter. -/
theorem isFilter_of_foldl {calls : List Call} (sound : ∀ c ∈ calls, c.Sound) {b : Builder}
    (before : ∀ n, b.root = some n → n.IsFilter) : ∀ n, (calls.foldl after b).root = some n → n.IsFilter := by
  -- The invariant is that the root is a filter; that its nodes keep the rules would not do, since the constructors
  -- of connectives ask for expressions.
  induction calls generalizing b with
  | nil => exact before
  | cons c rest ih =>
    rw [List.forall_mem_cons] at sound
    exact ih sound.2 (isFilter_after sound.1 before)

end Builder

/-! ## Trees that are handed out -/

/-- The ways in which callers come by a tree: from a document, decoded or in text or bytes; from a factory, if the
nodes among its arguments keep the rules; and as the root after calls on the empty builder, if the nodes among their
arguments do. -/
inductive HandedOut : Node → Prop where
  | document {functions : List String} {source : Document.Source} {n : Node} (h : source.read functions = .ok n) :
      HandedOut n
  | factory {f : Factory} {args : Arguments} {n : Node} (sound : args.Sound) (h : f.call args = .ok n) : HandedOut n
  | builder {calls : List Builder.Call} {n : Node} (sound : ∀ c ∈ calls, c.Sound)
      (h : (calls.foldl Builder.after .empty).root = some n) : HandedOut n

/-- The trees of documents keep the rules. -/
theorem Document.Source.wellFormed_of_read {functions : List String} {source : Source} {n : Node}
    (h : source.read functions = .ok n) : n.WellFormed := by
  rw [source.read_eq] at h
  cases decoded : source.decode with
  | none =>
    rw [decoded] at h
    cases h
  | some d =>
    rw [decoded] at h
    exact (Document.read_eq_ok.1 h).wellFormed

/-- Every tree that is handed out keeps the rules, and so does every node in it. -/
theorem HandedOut.keepsRules {n : Node} (h : HandedOut n) : n.WellFormed := by
  cases h with
  | document h => exact Document.Source.wellFormed_of_read h
  | factory sound h => exact Factory.wellFormed_of_call sound h
  | builder sound h =>
    have start : ∀ m, Builder.empty.root = some m → m.IsFilter := fun m none => nomatch none
    exact (Builder.isFilter_of_foldl sound start n h).1

/-- The sample calls hand out a tree that keeps the rules. -/
theorem HandedOut.keepsRules_sampleRoot : HandedOut Builder.sampleRoot ∧ Builder.sampleRoot.WellFormed := by
  have sound : ∀ c ∈ Builder.sampleCalls, c.Sound := by
    simp [Builder.sampleCalls, Builder.Call.Sound, Arguments.sound_positional, Value.sound_ofNode,
      Node.WellFormed, Node.AllWellFormed, Node.isExpression]
  have handedOut : HandedOut Builder.sampleRoot := .builder sound rfl
  exact ⟨handedOut, handedOut.keepsRules⟩

end CatalogFilter
