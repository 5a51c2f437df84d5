import CatalogFilter.Node.Walk

/-!
# Properties of every node

* `Node.preorder_eq` — the nodes of a tree are the tree itself and the nodes of its operands.
* `Node.Each` — every node of a tree has a property, and so has every node of its operands.
* `Node.byChildren` — what a node has if all its operands have it, every tree has.
* `Node.walkStack_eq_flatMap`, `Node.walk_eq_preorder` — a walk with a stack visits the nodes of the trees on it, tree by
  tree, and so those of a tree in order.
-/

namespace CatalogFilter.Node

theorem preorders_eq_flatMap (ns : List Node) : preorders ns = ns.flatMap preorder := by
  induction ns with
  | nil => rfl
  | cons n rest ih => rw [preorders, ih, List.flatMap_cons]

/-- The nodes of a tree are the tree itself and the nodes of its operands. -/
theorem preorder_eq (n : Node) : n.preorder = n :: n.children.flatMap preorder := by
  cases n with
  | spatial op left right => cases right <;> rfl
  | temporal op left right => cases right <;> rfl
  | _ => simp [preorder, children, preorders_eq_flatMap]

/-- A tree is a node of itself. -/
theorem mem_preorder_self (n : Node) : n ∈ n.preorder := by
  rw [preorder_eq n]
  exact List.mem_cons_self

/-- The nodes of an operand are nodes of the tree. -/
theorem mem_preorder_of_child {n c m : Node} (child : c ∈ n.children) (member : m ∈ c.preorder) : m ∈ n.preorder := by
  rw [preorder_eq n]
  exact List.mem_cons_of_mem n (List.mem_flatMap.2 ⟨c, child, member⟩)

/-- Whether every node of a tree has a property. -/
def Each (p : Node → Prop) (n : Node) : Prop :=
  ∀ m ∈ n.preorder, p m

/-- The tree itself has a property that every node has. -/
theorem Each.root {p : Node → Prop} {n : Node} (h : n.Each p) : p n :=
  h n (mem_preorder_self n)

/-- Every node of an operand has a property that every node has. -/
theorem Each.child {p : Node → Prop} {n c : Node} (h : n.Each p) (child : c ∈ n.children) : c.Each p :=
  fun m member => h m (mem_preorder_of_child child member)

/-- A property that implies another one on each node implies it on all of them. -/
theorem Each.imp {p q : Node → Prop} {n : Node} (h : n.Each p) (implies : ∀ m, p m → q m) : n.Each q :=
  fun m member => implies m (h m member)

/-! ## Induction -/

/-- A tree has more nodes than any one of its operands. -/
theorem weight_lt {n c : Node} (child : c ∈ n.children) : weight c < weight n := by
  have all {ns : List Node} (member : c ∈ ns) : weight c ≤ weights ns := by
    induction ns with
    | nil => cases member
    | cons m rest ih =>
      rw [weights]
      rcases List.mem_cons.1 member with rfl | member
      · omega
      · have := ih member
        omega
  have := all child
  rw [← weights_children n]
  omega

/-- What a node has if all its operands have it, every tree has. Properties and shapes that stand below a predicate count
as operands of it here. -/
theorem byChildren {P : Node → Prop} (step : ∀ n, (∀ c ∈ n.children, P c) → P n) (n : Node) : P n :=
  step n fun c _ => byChildren step c
termination_by n.weight
decreasing_by exact weight_lt ‹_›

/-! ## Walks -/

/-- What is still to be visited are the nodes of the trees on the stack, from the topmost one on. -/
theorem walkStack_eq_flatMap (stack : List Node) : walkStack stack = stack.flatMap preorder := by
  fun_induction walkStack stack with
  | case1 => rfl
  | case2 n rest ih => rw [ih, List.flatMap_append, List.flatMap_cons, preorder_eq n, List.cons_append]

/-- The walk over a tree gives the nodes that the recursion on the tree gives. -/
theorem walk_eq_preorder (n : Node) : n.walk = n.preorder := by
  rw [walk, walkStack_eq_flatMap, List.flatMap_singleton]

end CatalogFilter.Node
