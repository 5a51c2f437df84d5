import CatalogFilter.Builder
import CatalogFilter.Document.Writer

/-! # Builders that are called again and again

* `Builder.Routine`: what may read and assign the root, and may fail at any point, with the root as it is then.
* `Builder.join`, `Builder.insert`, `Builder.perform`: calls, with their statements in order.
* `Builder.Method`, `Builder.Invocation`: a method, and its call with arguments that need not fit it.
* `Builder.session`: calls whose errors are caught; `Builder.program`: calls of which the first error ends all.

A failure does not take back what was assigned before it. Whether a call that fails leaves the root as it was depends on
the order of its statements. -/

namespace CatalogFilter.Builder

/-! ## Routines -/

/-- What may read and assign the root, and may fail. -/
abbrev Routine := ExceptT Error (StateM (Option Node))

namespace Routine

variable {α β : Type}

/-- The outcome of a routine, and the root that it leaves. -/
def exec (a : Routine α) (root : Option Node) : Except Error α × Option Node :=
  a.run.run root

/-- Computes what does not depend on the root. -/
def compute (x : Except Error α) : Routine α :=
  ExceptT.mk (pure x)

/-- Assigns the root. -/
def assign (n : Node) : Routine Unit :=
  set (some n)

/-- Does a routine whose error is caught. -/
def catching (a : Routine α) : Routine Unit :=
  tryCatch (do let _ ← a) fun _ => pure ()

@[simp] theorem exec_throw (e : Error) (root : Option Node) : (throw e : Routine α).exec root = (.error e, root) := rfl

@[simp] theorem exec_get (root : Option Node) : (get : Routine (Option Node)).exec root = (.ok root, root) := rfl

@[simp] theorem exec_compute (x : Except Error α) (root : Option Node) : (compute x).exec root = (x, root) := rfl

/-- What follows is done with the root that is left, unless there is an error. -/
theorem exec_bind (a : Routine α) (f : α → Routine β) (root : Option Node) :
    (a >>= f).exec root =
      match a.exec root with
      | (.ok x, root') => (f x).exec root'
      | (.error e, root') => (.error e, root') := by
  unfold exec
  rw [ExceptT.run_bind, StateT.run_bind]
  rcases a.run.run root with ⟨_ | x, root'⟩
  · rfl
  · rfl

/-- An error that is caught leaves the root that it was raised with. -/
@[simp] theorem exec_catching (a : Routine α) (root : Option Node) :
    a.catching.exec root = (.ok (), (a.exec root).2) := by
  unfold catching exec
  rw [ExceptT.run_tryCatch, StateT.run_bind, ExceptT.run_bind, StateT.run_bind]
  rcases a.run.run root with ⟨_ | x, root'⟩
  · rfl
  · rfl

end Routine

open Routine

/-! ## Calls -/

/-- The name of the root's variant, which is shown after each change. There is none without a root. -/
def shownRoot : Routine String := do
  match ← get with
  | some n => return n.variant
  | none => throw .missingOperation

/-- Combines the root with expressions and shows what it has become. -/
def join (k : Connective) (exprs : List Value) : Routine Unit := do
  match ← get with
  | none => assign (← compute (liftParse (k.construct exprs)))
  | some n =>
    match k.children? n with
    | some children => assign (← compute (liftParse (k.construct (children.map .ofNode ++ exprs))))
    | none => assign (← compute (liftParse (k.construct (.ofNode n :: exprs))))
  let _ ← shownRoot

/-- Adds an expression to the root. -/
def insert (v : Value) : Routine Unit := do
  match v.node? with
  | some n =>
    if n.isExpression then
      match ← get with
      | none => assign n
      | some _ => join .and [v]
    else throw (.parse (.shape "and" (.notFilter n.variant)))
  | none => throw (.parse (.shape "and" (.notFilter v.kindName)))

/-- Does a call. -/
def perform : Call → Routine Unit
  | .add v => insert v
  | .and exprs => join .and exprs
  | .or exprs => join .or exprs
  | .not expr => do assign (← compute (liftParse (Construct.negation expr)))
  | .predicate factory args => do insert (.ofNode (← compute (factory.call args)))

/-! ## Methods -/

/-- A method of builders. Predicates are added as the functions of their names build them. -/
inductive Method where
  | add
  | and
  | or
  | not
  | predicate (factory : Factory)
  | build
  | toJson

/-- What a method returns: the builder itself, its root, or the document of its root. -/
inductive Result where
  | builder
  | tree (root : Option Node)
  | document (d : Option Datum)

/-- A method and the arguments that it is called with. -/
structure Invocation where
  method : Method
  args : Arguments

/-- The call of a method that changes the root, if the arguments fit it. -/
def Invocation.call? (i : Invocation) : Except Error (Option Call) :=
  match i.method with
  | .add => do
    match ← i.args.bind ["node"] 1 with
    | [some v] => .ok (some (.add v))
    | _ => .error .wrongKind
  | .and => do return some (.and (← i.args.allPositional))
  | .or => do return some (.or (← i.args.allPositional))
  | .not => do
    match ← i.args.bind ["expr"] 1 with
    | [some v] => .ok (some (.not v))
    | _ => .error .wrongKind
  | .predicate factory => .ok (some (.predicate factory i.args))
  | .build => do
    let _ ← i.args.bind [] 0
    return none
  | .toJson => do
    let _ ← i.args.bind [] 0
    return none

/-- What a method returns after its work. -/
def Method.result (root : Option Node) : Method → Result
  | .build => .tree root
  | .toJson => .document (root.map Node.toDocument)
  | _ => .builder

/-- Calls a method. -/
def Invocation.perform (i : Invocation) : Routine Result := do
  match ← compute i.call? with
  | some c => Builder.perform c
  | none => pure ()
  return i.method.result (← get)

/-! ## Sequences -/

/-- Calls one after the other, with errors caught. -/
def session : List Invocation → Routine Unit
  | [] => pure ()
  | i :: rest => do
    i.perform.catching
    session rest

/-- Calls one after the other, up to the first error. -/
def program : List Invocation → Routine Unit
  | [] => pure ()
  | i :: rest => do
    let _ ← i.perform
    program rest

/-- The calls of a session that raise no error. -/
def succeeding (root : Option Node) : List Invocation → List Invocation
  | [] => []
  | i :: rest =>
    match i.perform.exec root with
    | (.ok _, root') => i :: succeeding root' rest
    | (.error _, root') => succeeding root' rest

end CatalogFilter.Builder
