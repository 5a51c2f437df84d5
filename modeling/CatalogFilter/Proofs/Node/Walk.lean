import CatalogFilter.Proofs.Node.Attributes
import CatalogFilter.Proofs.Node.Places

/-!
# Walks with a stack

* `Visit`, `Visit.next?` — a walk under way, with the node that comes next at the end of its stack, and one round of it.
* `Visit.next?_eq_some` — a round visits the first node that is still to be visited and leaves the others.
* `Visit.exists_after?` — any number of rounds visits as many nodes, as long as there are that many.
* `Node.Visits` — whether nodes are what such a walk over a tree visits, round by round, in the order of the recursion on
  the tree, and each place of the tree once.
* `Node.walk_visits` — the nodes that the walk gives are.

The walk that gives them has the next node at the head of a list. Here it is taken from the end of the stack, and operands
are pushed from the last one to the first. What carries both is that the nodes of the trees on the stack, from the next one
on, are what is still to be visited.
-/

namespace CatalogFilter

/-- A walk under way: the nodes to go on with, of which the last one comes next, and the nodes visited so far. -/
structure Visit where
  stack : List Node
  visited : List Node

namespace Visit

/-- The beginning of the walk over a tree. -/
def start (n : Node) : Visit :=
  ⟨[n], []⟩

/-- One round: the last node of the stack is taken off it and visited, and its operands are pushed in reverse. A walk
with nothing on its stack has ended. -/
def next? (v : Visit) : Option Visit :=
  v.stack.getLast?.map fun n => ⟨v.stack.dropLast ++ n.children.reverse, v.visited ++ [n]⟩

/-- A number of rounds, if the walk does not end before. -/
def after? : ℕ → Visit → Option Visit
  | 0, v => some v
  | k + 1, v => v.next?.bind (after? k)

/-- The nodes still to be visited: those of the trees on the stack, from its end on. -/
def pending (v : Visit) : List Node :=
  v.stack.reverse.flatMap Node.preorder

variable {v w : Visit}

theorem pending_start (n : Node) : (start n).pending = n.preorder :=
  List.flatMap_singleton ..

theorem next?_concat (stack visited : List Node) (n : Node) :
    next? ⟨stack ++ [n], visited⟩ = some ⟨stack ++ n.children.reverse, visited ++ [n]⟩ := by
  rw [next?, List.getLast?_concat, Option.map_some, List.dropLast_concat]

/-- What is to be visited begins with the last node of the stack, and its operands come before the rest. -/
theorem pending_concat (stack visited : List Node) (n : Node) :
    pending ⟨stack ++ [n], visited⟩ = n :: pending ⟨stack ++ n.children.reverse, visited ++ [n]⟩ := by
  rw [pending, pending, List.reverse_concat, List.flatMap_cons, Node.preorder_eq n, List.reverse_append, List.reverse_reverse,
    List.flatMap_append, List.cons_append]

/-- A walk ends when nothing is to be visited any more. -/
theorem next?_eq_none_iff : v.next? = none ↔ v.pending = [] := by
  obtain ⟨stack, visited⟩ := v
  rcases List.eq_nil_or_concat stack with rfl | ⟨stack, n, rfl⟩
  · exact iff_of_true rfl rfl
  · rw [List.concat_eq_append, next?_concat, pending_concat]
    exact iff_of_false nofun nofun

/-- A round visits the first node that is still to be visited and leaves the others. -/
theorem next?_eq_some (h : v.next? = some w) : ∃ n, v.pending = n :: w.pending ∧ w.visited = v.visited ++ [n] := by
  obtain ⟨stack, visited⟩ := v
  rcases List.eq_nil_or_concat stack with rfl | ⟨stack, n, rfl⟩
  · cases h
  · rw [List.concat_eq_append] at h ⊢
    rw [next?_concat] at h
    cases h
    exact ⟨n, pending_concat stack visited n, rfl⟩

/-- Any number of rounds visits as many nodes, as long as there are that many. -/
theorem exists_after? (k : ℕ) (v : Visit) (enough : k ≤ v.pending.length) :
    ∃ w, v.after? k = some w ∧ w.visited = v.visited ++ v.pending.take k ∧ w.pending = v.pending.drop k := by
  induction k generalizing v with
  | zero => exact ⟨v, rfl, (List.append_nil _).symm, rfl⟩
  | succ k ih =>
    cases round : v.next? with
    | none =>
      rw [next?_eq_none_iff.1 round] at enough
      exact absurd enough (Nat.not_succ_le_zero k)
    | some u =>
      obtain ⟨n, first, visited⟩ := next?_eq_some round
      rw [first] at enough ⊢
      obtain ⟨w, rounds, visited', left⟩ := ih u (Nat.le_of_succ_le_succ enough)
      refine ⟨w, ?_, ?_, left⟩
      · rw [after?, round, Option.bind_some, rounds]
      · rw [visited', visited, List.take_succ_cons, List.append_assoc, List.singleton_append]

end Visit

namespace Node

/-- Whether nodes are what a walk with a stack visits in a tree. -/
structure Visits (n : Node) (ns : List Node) : Prop where
  /-- Each round visits one of them, in their order, and the walk ends after the last one and not before. -/
  rounds : ∀ k ≤ ns.length, ∃ v, (Visit.start n).after? k = some v ∧ v.visited = ns.take k ∧
    (v.next? = none ↔ k = ns.length)
  /-- They are the nodes that the recursion on the tree gives. -/
  recursion : ns = n.preorder
  /-- They are the nodes in all places of the tree, each place once and the places in ascending order. -/
  placed : ∃ places : List (List ℕ), places.Pairwise (· < ·) ∧
    (∀ path, path ∈ places ↔ (n.at? path).isSome = true) ∧ places.map n.at? = ns.map some

/-- The recursion on a tree gives what a walk with a stack visits. -/
theorem visits_preorder (n : Node) : n.Visits n.preorder where
  rounds k enough := by
    rw [← Visit.pending_start] at enough
    obtain ⟨v, rounds, visited, left⟩ := Visit.exists_after? k _ enough
    rw [Visit.pending_start] at enough visited left
    refine ⟨v, rounds, visited, ?_⟩
    rw [Visit.next?_eq_none_iff, left, List.drop_eq_nil_iff]
    exact ⟨fun all => le_antisymm enough all, ge_of_eq⟩
  recursion := rfl
  placed := by
    refine ⟨n.placedNodes.map (·.1), List.pairwise_map.2 n.pairwise_placedNodes, fun path => ?_, ?_⟩
    · simp [Option.isSome_iff_exists, ← mem_placedNodes_iff]
    · rw [← map_snd_placedNodes, List.map_map, List.map_map]
      exact List.map_congr_left fun x placed => mem_placedNodes_iff.1 placed

/-- The walk over a tree gives what is visited with a stack: one node in each round until all are visited, a node before
its operands and these from left to right, and each place of the tree once. Operands are all the nodes in the attributes of
a node, in the order in which it is shown with them, and there is nothing to a node but its variant and its attributes. -/
theorem walk_visits (n : Node) :
    n.Visits n.walk ∧
      (∀ m : Node, m.preorder = m :: m.children.flatMap preorder) ∧
      (∀ m : Node, m.children = m.attributes.flatMap fun a => a.2.held) ∧
      (∀ m : Node, m.shown = shownFields m.variant (m.attributes.map fun a => (a.1, a.2.shown))) ∧
      Function.Injective fun m : Node => (m.variant, m.attributes) := by
  refine ⟨?_, preorder_eq, children_eq, shown_eq, fun m m' same => ?_⟩
  · rw [walk_eq_preorder]
    exact visits_preorder n
  · obtain ⟨variants, attributes⟩ := Prod.mk.inj same
    exact eq_of_attributes variants attributes

end Node

end CatalogFilter
