import CatalogFilter.Factory

/-! # Step by step construction of filters

* `Connective`: conjunction or disjunction, whichever a call combines its expressions by.
* `Builder`: the filter assembled so far, if any.
* `Builder.Call`: one call on a builder; `Builder.step` is the root after it, or the error.
* `Builder.after`: the builder after a call; a failed call leaves it as it was.
* `Builder.run`: the builder after a sequence of calls that all succeed.

The first call makes its node the root. Conjunction and disjunction extend a root of their own kind and wrap
any other root as their first child; every other predicate is conjoined; negation replaces the root. -/

namespace CatalogFilter

/-! ## Connectives -/

/-- The connectives of any number of expressions. -/
inductive Connective where
  | and
  | or
  deriving DecidableEq

namespace Connective

/-- The node of a connective and its children. -/
def node : Connective → List Node → Node
  | .and, children => .and children
  | .or, children => .or children

/-- The children of a node, if the connective is its own. -/
def children? : Connective → Node → Option (List Node)
  | .and, .and children => some children
  | .or, .or children => some children
  | _, _ => none

/-- The node of a connective and the expressions that values are. -/
def construct : Connective → List Value → Except ParseError Node
  | .and => Construct.conjunction
  | .or => Construct.disjunction

theorem children?_eq_some_iff {k : Connective} {n : Node} {children : List Node} :
    k.children? n = some children ↔ n = k.node children := by
  cases k <;> cases n <;> simp [children?, node]

@[simp] theorem children?_node (k : Connective) (children : List Node) :
    k.children? (k.node children) = some children :=
  children?_eq_some_iff.2 rfl

end Connective

/-! ## Builders -/

/-- The filter assembled so far. -/
structure Builder where
  root : Option Node

namespace Builder

/-- The builder before the first call. -/
def empty : Builder :=
  ⟨none⟩

/-- A call on a builder. -/
inductive Call where
  | add (node : Value)
  | and (exprs : List Value)
  | or (exprs : List Value)
  | not (expr : Value)
  | predicate (factory : Factory) (args : Arguments)

/-- The root combined with expressions: a root of the same connective is extended, any other root is wrapped. -/
def combine (k : Connective) (root : Option Node) (exprs : List Value) : Except ParseError Node :=
  match root with
  | none => k.construct exprs
  | some n =>
    match k.children? n with
    | some children => k.construct (children.map .ofNode ++ exprs)
    | none => k.construct (.ofNode n :: exprs)

/-- The root with an expression added. -/
def addTo (root : Option Node) (v : Value) : Except ParseError Node :=
  match v.node? with
  | some n =>
    if n.isExpression then
      match root with
      | none => .ok n
      | some _ => combine .and root [v]
    else .error (.shape "and" (.notFilter n.variant))
  | none => .error (.shape "and" (.notFilter v.kindName))

/-- The root after a call. -/
def step (root : Option Node) : Call → Except Error Node
  | .add v => liftParse (addTo root v)
  | .and exprs => liftParse (combine .and root exprs)
  | .or exprs => liftParse (combine .or root exprs)
  | .not expr => liftParse (Construct.negation expr)
  | .predicate factory args => do
    let n ← factory.call args
    liftParse (addTo root (.ofNode n))

/-- The builder after a call; a failed call leaves it as it was. -/
def after (b : Builder) (c : Call) : Builder :=
  match step b.root c with
  | .ok n => ⟨some n⟩
  | .error _ => b

/-- The builder after some calls, or the error of the first that fails. -/
def run (b : Builder) : List Call → Except Error Builder
  | [] => .ok b
  | c :: rest => do
    let n ← step b.root c
    run ⟨some n⟩ rest

theorem after_of_ok {b : Builder} {c : Call} {n : Node} (h : step b.root c = .ok n) :
    b.after c = ⟨some n⟩ := by
  simp [after, h]

theorem after_of_error {b : Builder} {c : Call} {e : Error} (h : step b.root c = .error e) :
    b.after c = b := by
  simp [after, h]

end Builder

end CatalogFilter
