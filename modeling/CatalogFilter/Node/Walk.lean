import CatalogFilter.Error
import CatalogFilter.Node.Basic
import CatalogFilter.Text.Start

/-! # Looking into trees

* `Node.children`: the direct operands of a node, from left to right.
* `Node.walk`: the nodes of a tree, found with a stack of nodes that are still to be visited.
* `Node.preorder`: the same nodes by recursion on the tree, each before its operands.
* `Node.properties`, `Node.subjectProperty?`: the properties that a tree refers to.
* `Node.terminals?`: the predicates that a conjunction consists of.
* `groupBy`: values grouped by a key; groups and their members keep the order of the values. -/

namespace CatalogFilter

/-- Texts in order without repetitions. -/
def sortedSet (names : List String) : List String :=
  (names.mergeSort fun a b => decide (a ≤ b)).eraseReps

namespace Node

/-! ## Operands and size -/

/-- The direct operands of a node. -/
def children : Node → List Node
  | .array elements => elements
  | .and children => children
  | .or children => children
  | .not child => [child]
  | .comparison _ left right => [.property left, right]
  | .between subject lower upper => [.property subject, lower, upper]
  | .like subject _ => [.property subject]
  | .isIn subject values => .property subject :: values
  | .isNull subject => [.property subject]
  | .spatial _ left right => [.property left, right.toNode]
  | .temporal _ left right => [.property left, right.toNode]
  | .arrayComparison _ left right => [left, right]
  | .function _ args => args
  | _ => []

mutual

/-- The number of nodes of a tree. -/
def weight : Node → Nat
  | .array elements => weights elements + 1
  | .and children => weights children + 1
  | .or children => weights children + 1
  | .not child => weight child + 1
  | .comparison _ _ right => weight right + 2
  | .between _ lower upper => weight lower + weight upper + 2
  | .like _ _ => 2
  | .isIn _ values => weights values + 2
  | .isNull _ => 2
  | .spatial _ _ _ => 3
  | .temporal _ _ _ => 3
  | .arrayComparison _ left right => weight left + weight right + 1
  | .function _ args => weights args + 1
  | _ => 1

/-- The number of nodes of some trees. -/
def weights : List Node → Nat
  | [] => 0
  | n :: rest => weight n + weights rest

end

theorem weights_append (xs ys : List Node) : weights (xs ++ ys) = weights xs + weights ys := by
  induction xs with
  | nil => simp [weights]
  | cons x xs ih =>
    rw [List.cons_append, weights, weights, ih]
    omega

theorem weight_toNode_shape (s : Shape) : weight s.toNode = 1 := by
  cases s <;> rfl

theorem weight_toNode_instant (t : Instant) : weight t.toNode = 1 := by
  cases t <;> rfl

/-- A tree has one node more than its operands together. -/
theorem weights_children (n : Node) : weights n.children + 1 = weight n := by
  cases n <;>
    simp only [children, weights, weight, weight_toNode_shape, weight_toNode_instant] <;> omega

/-! ## Walks -/

/-- The nodes of the trees on a stack: the topmost node comes next, and its operands take its place. -/
def walkStack (stack : List Node) : List Node :=
  match stack with
  | [] => []
  | n :: rest => n :: walkStack (n.children ++ rest)
termination_by weights stack
decreasing_by
  rw [weights_append, weights, ← weights_children n]
  omega

/-- The nodes of a tree, each before its operands. -/
def walk (n : Node) : List Node :=
  walkStack [n]

mutual

/-- The nodes of a tree, each before its operands, by recursion on the tree. -/
def preorder : Node → List Node
  | .array elements => .array elements :: preorders elements
  | .and children => .and children :: preorders children
  | .or children => .or children :: preorders children
  | .not child => .not child :: preorder child
  | .comparison op left right => .comparison op left right :: .property left :: preorder right
  | .between subject lower upper =>
    .between subject lower upper :: .property subject :: (preorder lower ++ preorder upper)
  | .like subject pattern => [.like subject pattern, .property subject]
  | .isIn subject values => .isIn subject values :: .property subject :: preorders values
  | .isNull subject => [.isNull subject, .property subject]
  | .spatial op left right => [.spatial op left right, .property left, right.toNode]
  | .temporal op left right => [.temporal op left right, .property left, right.toNode]
  | .arrayComparison op left right => .arrayComparison op left right :: (preorder left ++ preorder right)
  | .function name args => .function name args :: preorders args
  | n => [n]

/-- The nodes of some trees, tree by tree. -/
def preorders : List Node → List Node
  | [] => []
  | n :: rest => preorder n ++ preorders rest

end

/-! ## Properties -/

/-- The beginning of property names that queryables are listed without. -/
def propertiesStart : String :=
  "properties."

/-- A property name without one leading `properties.`. -/
def bareName (name : String) : String :=
  match Text.dropStart? propertiesStart.toList name.toList with
  | some rest => String.ofList rest
  | none => name

/-- The name of a node that is a property. -/
def propertyName? : Node → Option String
  | .property p => some p.name
  | _ => none

/-- The names of the properties of a tree, in the order of the walk, with repetitions. -/
def propertyNames (n : Node) : List String :=
  n.walk.filterMap propertyName?

/-- The bare names of the properties that a tree refers to, in order and each once. -/
def properties (n : Node) : List String :=
  sortedSet (n.propertyNames.map bareName)

/-- The name of the first property of a tree. -/
def subjectProperty? (n : Node) : Option String :=
  n.propertyNames.head?

/-! ## Conjunctions -/

mutual

/-- The predicates that a conjunction consists of, through conjunctions inside it; a disjunction or negation
cannot be taken apart. -/
def terminals? : Node → Except Error (List Node)
  | .and children => allTerminals? children
  | .or children => .error (.unsupportedNode (Node.or children).variant "terminal operations")
  | .not child => .error (.unsupportedNode (Node.not child).variant "terminal operations")
  | n => .ok [n]

/-- The predicates that some conjunctions consist of. -/
def allTerminals? : List Node → Except Error (List Node)
  | [] => .ok []
  | n :: rest => do
    let first ← terminals? n
    let others ← allTerminals? rest
    .ok (first ++ others)

end

@[simp] theorem walkStack_nil : walkStack [] = [] := by rw [walkStack]

end Node

/-! ## Groups -/

section Groups

variable {κ α : Type} [BEq κ]

/-- Puts a value into the group of its key, a new key last. -/
def insertGroup (key : κ) (x : α) : List (κ × List α) → List (κ × List α)
  | [] => [(key, [x])]
  | (k, xs) :: rest => if k == key then (k, xs ++ [x]) :: rest else (k, xs) :: insertGroup key x rest

/-- Values grouped by a key. -/
def groupBy (key : α → κ) (xs : List α) : List (κ × List α) :=
  xs.foldl (fun groups x => insertGroup (key x) x groups) []

@[simp] theorem groupBy_nil (key : α → κ) : groupBy key [] = [] := rfl

theorem groupBy_concat (key : α → κ) (xs : List α) (x : α) :
    groupBy key (xs ++ [x]) = insertGroup (key x) x (groupBy key xs) := by
  simp [groupBy]

end Groups

end CatalogFilter
