import CatalogFilter.Builder
import Mathlib

/-!
# Trees as connectives of their leaves

* `Node.truth` — the truth of a tree under truth values of its predicates.
* `Node.leaves` — what is left of a tree without its conjunctions and disjunctions, from left to right.
* `Node.Alternates` — no conjunction is a child of a conjunction, and no disjunction of a disjunction.
* `Connective.grow` — a root extended by, or wrapped together with, further expressions.
* `Connective.truth_grow`, `Connective.leaves_grow`, `Connective.alternates_grow` — extending and wrapping are the
  same to the truth and to the leaves of a tree, and both keep it alternating.
-/

namespace CatalogFilter

namespace Node

/-! ## Truth -/

section Truth

variable (v : Node → Bool)

mutual

/-- The truth of a tree under truth values of its predicates. -/
def truth : Node → Bool
  | .and children => allTrue children
  | .or children => someTrue children
  | .not child => !truth child
  | n => v n

/-- Whether each tree is true. -/
def allTrue : List Node → Bool
  | [] => true
  | n :: rest => truth n && allTrue rest

/-- Whether some tree is true. -/
def someTrue : List Node → Bool
  | [] => false
  | n :: rest => truth n || someTrue rest

end

theorem allTrue_eq_all (ns : List Node) : allTrue v ns = ns.all (truth v) := by
  induction ns with
  | nil => rfl
  | cons n rest ih => rw [allTrue, ih, List.all_cons]

theorem someTrue_eq_any (ns : List Node) : someTrue v ns = ns.any (truth v) := by
  induction ns with
  | nil => rfl
  | cons n rest ih => rw [someTrue, ih, List.any_cons]

end Truth

/-! ## Leaves -/

mutual

/-- The predicates and negations that a tree consists of, from left to right. -/
def leaves : Node → List Node
  | .and children => allLeaves children
  | .or children => allLeaves children
  | n => [n]

/-- `leaves` of each tree. -/
def allLeaves : List Node → List Node
  | [] => []
  | n :: rest => leaves n ++ allLeaves rest

end

theorem allLeaves_eq_flatMap (ns : List Node) : allLeaves ns = ns.flatMap leaves := by
  induction ns with
  | nil => rfl
  | cons n rest ih => rw [allLeaves, ih, List.flatMap_cons]

/-- Whether a node is neither a conjunction nor a disjunction. -/
def IsLeaf : Node → Prop
  | .and _ => False
  | .or _ => False
  | _ => True

/-- A leaf has no children of a connective. -/
theorem IsLeaf.children?_eq_none {n : Node} (h : n.IsLeaf) (k : Connective) : k.children? n = none := by
  cases k <;> cases n <;> first | rfl | exact h.elim

/-- A leaf is the only leaf that it has. -/
theorem IsLeaf.leaves_eq {n : Node} (h : n.IsLeaf) : n.leaves = [n] := by
  cases n <;> first | rfl | exact h.elim

/-- Leaves are the leaves that they have together. -/
theorem flatMap_leaves {ns : List Node} (h : ∀ n ∈ ns, n.IsLeaf) : ns.flatMap leaves = ns := by
  induction ns with
  | nil => rfl
  | cons n rest ih =>
    have others : rest.flatMap leaves = rest := ih fun m hm => h m (List.mem_cons_of_mem n hm)
    rw [List.flatMap_cons, (h n List.mem_cons_self).leaves_eq, others, List.singleton_append]

/-! ## Alternation -/

mutual

/-- Whether conjunctions and disjunctions take turns: none is a child of its own kind. -/
def Alternates : Node → Prop
  | .and children => (∀ c ∈ children, Connective.and.children? c = none) ∧ AllAlternate children
  | .or children => (∀ c ∈ children, Connective.or.children? c = none) ∧ AllAlternate children
  | _ => True

/-- `Alternates` of each tree. -/
def AllAlternate : List Node → Prop
  | [] => True
  | n :: rest => Alternates n ∧ AllAlternate rest

end

theorem allAlternate_iff (ns : List Node) : AllAlternate ns ↔ ∀ n ∈ ns, n.Alternates := by
  induction ns with
  | nil => simp [AllAlternate]
  | cons n rest ih => simp [AllAlternate, ih]

/-- A leaf has nothing that could fail to take turns. -/
theorem IsLeaf.alternates {n : Node} (h : n.IsLeaf) : n.Alternates := by
  cases n <;> trivial

end Node

/-! ## Extending and wrapping -/

namespace Connective

/-- The truth of a connective of parts: of all of them, or of some. -/
def holds (k : Connective) (v : Node → Bool) (ns : List Node) : Bool :=
  match k with
  | .and => ns.all v
  | .or => ns.any v

/-- The truth of a connective of two truths. -/
def both (k : Connective) (a b : Bool) : Bool :=
  match k with
  | .and => a && b
  | .or => a || b

/-- A root together with further expressions: a root of the connective is extended, any other root is wrapped. -/
def grow (k : Connective) (root : Option Node) (ns : List Node) : Node :=
  match root with
  | none => k.node ns
  | some n =>
    match k.children? n with
    | some children => k.node (children ++ ns)
    | none => k.node (n :: ns)

section

variable {k : Connective} {v : Node → Bool}

theorem holds_cons (n : Node) (ns : List Node) : k.holds v (n :: ns) = k.both (v n) (k.holds v ns) := by
  cases k <;> rfl

theorem holds_append (xs ys : List Node) : k.holds v (xs ++ ys) = k.both (k.holds v xs) (k.holds v ys) := by
  cases k with
  | and => exact List.all_append
  | or => exact List.any_append

theorem truth_node (ns : List Node) : (k.node ns).truth v = k.holds (Node.truth v) ns := by
  cases k with
  | and => rw [node, Node.truth, Node.allTrue_eq_all, holds]
  | or => rw [node, Node.truth, Node.someTrue_eq_any, holds]

theorem leaves_node (ns : List Node) : (k.node ns).leaves = ns.flatMap Node.leaves := by
  cases k with
  | and => rw [node, Node.leaves, Node.allLeaves_eq_flatMap]
  | or => rw [node, Node.leaves, Node.allLeaves_eq_flatMap]

theorem alternates_node {ns : List Node} :
    (k.node ns).Alternates ↔ ∀ n ∈ ns, k.children? n = none ∧ n.Alternates := by
  cases k with
  | and => rw [node, Node.Alternates, Node.allAlternate_iff, ← forall₂_and]
  | or => rw [node, Node.Alternates, Node.allAlternate_iff, ← forall₂_and]

theorem grow_none (ns : List Node) : k.grow none ns = k.node ns := rfl

/-- A root of the connective itself is extended. -/
theorem grow_node (children ns : List Node) : k.grow (some (k.node children)) ns = k.node (children ++ ns) := by
  rw [grow, children?_node]

/-- A root of another kind is wrapped. -/
theorem grow_other {n : Node} (other : k.children? n = none) (ns : List Node) :
    k.grow (some n) ns = k.node (n :: ns) := by
  rw [grow, other]

/-- Whether a root is extended or wrapped, the result is true as the root and the further expressions are. -/
theorem truth_grow (n : Node) (ns : List Node) :
    (k.grow (some n) ns).truth v = k.both (n.truth v) (k.holds (Node.truth v) ns) := by
  cases found : k.children? n with
  | some children =>
    have same : n = k.node children := children?_eq_some_iff.1 found
    subst same
    rw [grow_node, truth_node, truth_node, holds_append]
  | none => rw [grow_other found, truth_node, holds_cons]

/-- Whether a root is extended or wrapped, the leaves of the further expressions follow its own. -/
theorem leaves_grow (root : Option Node) (ns : List Node) :
    (k.grow root ns).leaves = root.toList.flatMap Node.leaves ++ ns.flatMap Node.leaves := by
  cases root with
  | none => rw [grow_none, leaves_node, Option.toList_none, List.flatMap_nil, List.nil_append]
  | some n =>
    rw [Option.toList_some, List.flatMap_singleton]
    cases found : k.children? n with
    | some children =>
      have same : n = k.node children := children?_eq_some_iff.1 found
      subst same
      rw [grow_node, leaves_node, leaves_node, List.flatMap_append]
    | none => rw [grow_other found, leaves_node, List.flatMap_cons]

/-- Leaves keep a root alternating, whether it is extended by them or wrapped together with them. -/
theorem alternates_grow {root : Option Node} {ns : List Node} (alternates : ∀ n, root = some n → n.Alternates)
    (flat : ∀ n ∈ ns, n.IsLeaf) : (k.grow root ns).Alternates := by
  have others : ∀ n ∈ ns, k.children? n = none ∧ n.Alternates := fun n hn =>
    ⟨(flat n hn).children?_eq_none k, (flat n hn).alternates⟩
  cases root with
  | none =>
    rw [grow_none, alternates_node]
    exact others
  | some n =>
    have first : n.Alternates := alternates n rfl
    cases found : k.children? n with
    | some children =>
      have same : n = k.node children := children?_eq_some_iff.1 found
      subst same
      rw [grow_node, alternates_node]
      intro m hm
      rcases List.mem_append.1 hm with hm | hm
      · exact alternates_node.1 first m hm
      · exact others m hm
    | none =>
      rw [grow_other found, alternates_node]
      intro m hm
      -- The root is wrapped because it is of the other kind, so it may be a child.
      rcases List.mem_cons.1 hm with rfl | hm
      · exact ⟨found, first⟩
      · exact others m hm

end

end Connective

end CatalogFilter
