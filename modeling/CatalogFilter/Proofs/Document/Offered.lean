import CatalogFilter.Factory
import CatalogFilter.Proofs.Document.Assembly
import CatalogFilter.Proofs.Document.Shapes

/-!
# Operands that are offered and operands that are read

* `ParseError.cls` — the class of an error, which callers tell apart.
* `Document.SameOutcome` — a tree that is made and a tree that is read are the same, or both fail by errors of one class.
* `Document.TypedOperand` — JSON values in which the objects that stand for operands have a type and are no other form.
* `Document.alike_readGeometry`, `Document.alike_operand` — such values become the same operands, offered or read.
* `Document.sameOutcome_factories` — so predicates with such operands are the same, made by a factory or read.

The two ways name different places in the messages of their errors, so only the classes can be compared. They are compared step by
step: where one step differs in its outcome, neither way goes on to the next.
-/

namespace CatalogFilter

open Outcome

/-- The class of an error. -/
def ParseError.cls : ParseError → ErrorClass
  | .malformed => .malformed
  | .missingOperator => .missingOperator
  | .unsupportedOperator _ => .unsupportedOperator
  | .arity _ _ _ => .arity
  | .shape _ _ => .shape
  | .geometry _ _ => .geometry
  | .time _ _ => .time

/-- An error that is not about a time can be put into words, and is raised as it is. -/
theorem ParseError.raised_of_untimed {e : ParseError} (untimed : e.cls ≠ .time) : e.raised = .parse e := by
  cases e with
  | time op fault => exact absurd rfl untimed
  | _ => rfl

namespace Document

/-! ## Outcomes that differ in the wording of errors only -/

/-- What is made and what is read are the same tree, or both fail by errors of reading of one class. -/
def SameOutcome (made : Except Error Node) (read : Except ParseError Node) : Prop :=
  (∃ n, made = .ok n ∧ liftParse read = .ok n) ∨
    ∃ e e', made = .error (.parse e) ∧ liftParse read = .error (.parse e') ∧ e.cls = e'.cls

section

variable {α β : Type} {x y : Except ParseError α}

/-- The same result, or errors of one class, which are not about times. -/
structure Alike (x y : Except ParseError α) : Prop where
  same : x.mapError ParseError.cls = y.mapError ParseError.cls
  untimed : ∀ e, x = .error e → e.cls ≠ .time

/-- A result is alike to itself. -/
theorem alike_ok (a : α) : Alike (.ok a) (.ok a) :=
  ⟨rfl, nofun⟩

theorem alike_error {e e' : ParseError} (same : e.cls = e'.cls) (untimed : e.cls ≠ .time) :
    Alike (.error e : Except ParseError α) (.error e') where
  same := congrArg Except.error same
  untimed := by
    rintro _ ⟨⟩
    exact untimed

/-- What is alike has a result in common, or fails on both sides by errors of one class. -/
theorem Alike.cases (h : Alike x y) :
    (∃ a, x = .ok a ∧ y = .ok a) ∨ ∃ e e', x = .error e ∧ y = .error e' ∧ e.cls = e'.cls ∧ e.cls ≠ .time := by
  obtain ⟨same, untimed⟩ := h
  cases x with
  | error e =>
    cases y with
    | error e' => exact .inr ⟨e, e', rfl, rfl, Except.error.inj same, untimed e rfl⟩
    | ok b => cases same
  | ok a =>
    cases y with
    | error e' => cases same
    | ok b =>
      cases same
      exact .inl ⟨a, rfl, rfl⟩

/-- Steps that are alike after steps that are alike are alike together. -/
theorem Alike.bind (first : Alike x y) {f g : α → Except ParseError β} (next : ∀ a, Alike (f a) (g a)) :
    Alike (x >>= f) (y >>= g) := by
  rcases first.cases with ⟨a, rfl, rfl⟩ | ⟨e, e', rfl, rfl, same, untimed⟩
  · exact next a
  · exact alike_error same untimed

/-- Passing on what is alike leaves it alike. -/
theorem Alike.map (first : Alike x y) (f : α → β) : Alike (x.map f) (y.map f) :=
  first.bind fun a => alike_ok (f a)

/-- What is made by a step after an outcome that is alike and what is read after it have the same outcome if the steps have. -/
theorem Alike.bind_sameOutcome (first : Alike x y) {f : α → Except Error Node} {g : α → Except ParseError Node}
    (next : ∀ a, SameOutcome (f a) (g a)) : SameOutcome (liftParse x >>= f) (y >>= g) := by
  rcases first.cases with ⟨a, rfl, rfl⟩ | ⟨e, e', rfl, rfl, same, untimed⟩
  · exact next a
  · have made := ParseError.raised_of_untimed untimed
    have read := ParseError.raised_of_untimed (same ▸ untimed)
    exact .inr ⟨e, e', congrArg Except.error made, congrArg Except.error read, same⟩

theorem sameOutcome_ok (n : Node) : SameOutcome (.ok n) (.ok n) :=
  .inl ⟨n, rfl, rfl⟩

/-- What is made by the step that reads has the same outcome, if that is no error about a time. -/
theorem sameOutcome_of_alike {x : Except ParseError Node} (itself : Alike x x) : SameOutcome (liftParse x) x := by
  rcases itself.cases with ⟨n, rfl, -⟩ | ⟨e, _, rfl, -, -, untimed⟩
  · exact sameOutcome_ok n
  · have raised := ParseError.raised_of_untimed untimed
    exact .inr ⟨e, e, congrArg Except.error raised, congrArg Except.error raised, rfl⟩

end

/-! ## Operands -/

/-- The names of members by which an object is read as another operand than a geometry, whatever its type. -/
def otherForms : List String :=
  ["property", "op", "timestamp", "date", "interval"]

/-- A JSON value in which each object that stands for an operand, which is the value itself or is reached through lists, has a
type and is no operand of another form. -/
inductive TypedOperand : Datum → Prop where
  | null : TypedOperand .null
  | bool (b : Bool) : TypedOperand (.bool b)
  | num (n : Number) : TypedOperand (.num n)
  | str (s : String) : TypedOperand (.str s)
  | list {items : List Datum} (each : ∀ d ∈ items, TypedOperand d) : TypedOperand (.list items)
  | object {members : Members} (typed : has members "type" = true)
      (noOther : ∀ name ∈ otherForms, has members name = false) : TypedOperand (.object members)

/-- Geometries are read alike wherever they stand. -/
theorem alike_readGeometry (op op' : String) (members : Members) :
    Alike (readGeometry op (.object members)) (readGeometry op' (.object members)) where
  same := by
    unfold readGeometry
    dsimp only
    split
    · split
      · rfl
      · split
        · rfl
        · split <;> rfl
    · rfl
  untimed := by
    intro e failed
    rcases readGeometry_eq_error failed with ⟨place, fault, rfl⟩ | ⟨d, -, rfl⟩ <;> exact nofun

/-- An object with a type that is no operand of another form is read as a geometry. -/
theorem readOperand_typed {functions : List String} {op : String} {members : Members} (typed : has members "type" = true)
    (noOther : ∀ name ∈ otherForms, has members name = false) :
    readOperand functions op (.object members) = (readGeometry op (.object members)).map .geometry := by
  simp only [otherForms, List.forall_mem_cons] at noOther
  obtain ⟨property, operator, timestamp, date, interval, -⟩ := noOther
  simp [readOperand, property, operator, timestamp, date, interval, typed]

/-- Items that become operands alike one by one do so together. -/
theorem alike_operands {functions : List String} {op : String} {items : List Datum}
    (each : ∀ d ∈ items, Alike (Coerce.operand (.ofDatum d)) (readOperand functions op d)) :
    Alike (Coerce.operands (items.map Value.ofDatum)) (readOperands functions op items) := by
  induction items with
  | nil => exact alike_ok []
  | cons d rest ih =>
    rw [List.forall_mem_cons] at each
    rw [List.map_cons, Coerce.operands, readOperands]
    exact each.1.bind fun n => (ih each.2).bind fun ns => alike_ok (n :: ns)

/-- Values become operands alike, offered or read. -/
theorem alike_operand (functions : List String) (op : String) {d : Datum} (h : TypedOperand d) :
    Alike (Coerce.operand (.ofDatum d)) (readOperand functions op d) := by
  induction h with
  | null => exact alike_error rfl nofun
  | bool b => exact alike_ok (Node.literal (.bool b))
  | num n => exact alike_ok (Node.literal (.num n))
  | str s => exact alike_ok (Node.literal (.str s))
  | @list items _ ih =>
    have offered : Value.ofDatum (.list items) = .list (items.map Value.ofDatum) :=
      congrArg Data.list (Data.mapAll_eq_map _ items)
    rw [offered, Coerce.operand, readOperand]
    exact (alike_operands ih).map Node.array
  | @object members typed noOther =>
    -- An object that is offered is a geometry at once, and is shown as it was.
    have offered : Coerce.operand (.ofDatum (.object members)) =
        Coerce.geometryOfForm (Value.ofDatum (.object members)).toDatum := rfl
    rw [offered, Value.toDatum_ofDatum, Coerce.geometryOfForm, readOperand_typed typed noOther]
    exact (alike_readGeometry _ _ members).map Node.geometry

/-! ## Predicates -/

/-- An object with an operator and arguments. -/
def formOf (op : String) (args : List Datum) : Datum :=
  .object [("op", .str op), ("args", .list args)]

/-- The form of a known head is read as the head says. -/
theorem read_formOf (names : List String) (head : Head) (known : head.Known (names.map Text.lower)) {op : String}
    (named : Text.lower op = head.name) (args : List Datum) :
    read names (formOf op args) = readForm (names.map Text.lower) head [("args", .list args)] :=
  readChild_of_frame known ⟨⟨op, rfl, named⟩, rfl⟩

section

variable (names : List String) (p : String)

/-- The object that names a property. -/
def propertyObject (p : String) : Datum :=
  .object [("property", .str p)]

/-- A name is a subject or not, offered or in an object. -/
theorem alike_subject (op what : String) : Alike (Coerce.subject (.str p)) (readProperty op (propertyObject p) what) := by
  have reads : readProperty op (propertyObject p) what = readPropertyName op (.str p) := rfl
  have offers : Coerce.subject (.str p) = Property.make p := rfl
  rw [reads, offers, readPropertyName, Property.make]
  split
  · exact alike_error rfl fun same => by cases same
  · exact alike_ok _

/-- Comparisons. -/
theorem sameOutcome_compare (op : ComparisonOp) {v : Datum} (typed : TypedOperand v) :
    SameOutcome (Factory.compare.call ⟨[.str op.symbol, .str p, .ofDatum v], []⟩)
      (read names (formOf op.symbol [propertyObject p, v])) := by
  have reads := read_formOf names (.core (.comparison op)) trivial
    (Operator.lower_symbol (.comparison op)) [propertyObject p, v]
  rw [readForm, if_pos rfl] at reads
  refine reads ▸ (alike_subject p _ _).bind_sameOutcome fun left => ?_
  refine (alike_operand _ _ typed).bind_sameOutcome fun right => ?_
  have made : Construct.comparison (.str op.symbol) (.ofNode (.property left)) (.ofNode right) =
      .ok (.comparison op left right) :=
    Construct.comparison_eq_ok.2 ⟨_, op, left, right, rfl, ComparisonOp.ofSymbol?_symbol op, rfl, rfl, rfl⟩
  rw [made]
  exact sameOutcome_ok _

/-- Range tests. -/
theorem sameOutcome_between {v w : Datum} (typed : TypedOperand v) (typed' : TypedOperand w) :
    SameOutcome (Factory.between.call ⟨[.str p, .ofDatum v, .ofDatum w], []⟩)
      (read names (formOf "between" [propertyObject p, v, w])) := by
  have reads := read_formOf names (.core (.advanced .between)) trivial
    (Operator.lower_symbol (.advanced .between)) [propertyObject p, v, w]
  rw [readForm, if_pos rfl] at reads
  refine reads ▸ (alike_subject p _ _).bind_sameOutcome fun subject => ?_
  refine (alike_operand _ _ typed).bind_sameOutcome fun lower => ?_
  exact (alike_operand _ _ typed').bind_sameOutcome fun upper => sameOutcome_ok _

/-- Membership tests. -/
theorem sameOutcome_isIn {vs : List Datum} (typed : ∀ v ∈ vs, TypedOperand v) :
    SameOutcome (Factory.isIn.call ⟨[.str p, .ofDatum (.list vs)], []⟩)
      (read names (formOf "in" [propertyObject p, .list vs])) := by
  have reads := read_formOf names (.core (.advanced .isIn)) trivial
    (Operator.lower_symbol (.advanced .isIn)) [propertyObject p, .list vs]
  rw [readForm, if_pos rfl] at reads
  refine reads ▸ (alike_subject p _ _).bind_sameOutcome fun subject => ?_
  have items : (Value.ofDatum (.list vs)).items = .ok (vs.map Value.ofDatum) :=
    congrArg Except.ok (Data.mapAll_eq_map _ vs)
  rw [items, ok_bind]
  have values := alike_operands fun v among => alike_operand (names.map Text.lower) "in" (typed v among)
  exact values.bind_sameOutcome fun ns => sameOutcome_ok (.isIn subject ns)

/-- Function calls. -/
theorem sameOutcome_function {name : String} (known : Text.lower name ∈ names.map Text.lower)
    (notCore : Text.lower name ∉ coreOperators) {vs : List Datum} (typed : ∀ v ∈ vs, TypedOperand v) :
    SameOutcome (Factory.function.call ⟨.str name :: vs.map .ofDatum, []⟩) (read names (formOf name vs)) := by
  have reads := read_formOf names (.function (Text.lower name)) ⟨notCore, known⟩ rfl vs
  rw [readForm, if_pos rfl] at reads
  refine reads ▸ (alike_operands fun v among => alike_operand _ _ (typed v among)).bind_sameOutcome fun args => ?_
  refine sameOutcome_of_alike ⟨rfl, fun e failed => ?_⟩
  have refused := map_eq_error.1 failed
  unfold checkFunctionName at refused
  split_ifs at refused <;> cases refused <;> exact nofun

/-- Factories and documents agree on JSON operands. A comparison, a range test and a membership test of a property, and the call
of a known function that is no operator, are the same tree if a factory makes them and if they are read from a document, or both
fail by errors of one class: with every value for an operand in which the objects that stand for operands are typed and no other
form. -/
theorem sameOutcome_factories (names : List String) (p : String) :
    (∀ (op : ComparisonOp) (v : Datum), TypedOperand v →
      SameOutcome (Factory.compare.call ⟨[.str op.symbol, .str p, .ofDatum v], []⟩)
        (read names (formOf op.symbol [propertyObject p, v]))) ∧
    (∀ v w : Datum, TypedOperand v → TypedOperand w →
      SameOutcome (Factory.between.call ⟨[.str p, .ofDatum v, .ofDatum w], []⟩)
        (read names (formOf "between" [propertyObject p, v, w]))) ∧
    (∀ vs : List Datum, (∀ v ∈ vs, TypedOperand v) →
      SameOutcome (Factory.isIn.call ⟨[.str p, .ofDatum (.list vs)], []⟩)
        (read names (formOf "in" [propertyObject p, .list vs]))) ∧
    ∀ (name : String) (vs : List Datum), Text.lower name ∈ names.map Text.lower → Text.lower name ∉ coreOperators →
      (∀ v ∈ vs, TypedOperand v) →
      SameOutcome (Factory.function.call ⟨.str name :: vs.map .ofDatum, []⟩) (read names (formOf name vs)) :=
  ⟨fun op _ typed => sameOutcome_compare names p op typed, fun _ _ typed typed' => sameOutcome_between names p typed typed',
    fun _ typed => sameOutcome_isIn names p typed,
    fun _ _ known notCore typed => sameOutcome_function names known notCore typed⟩

end

/-- A list with a geometry and a list in it. -/
def mixedList : Datum :=
  .list [.bool true, .object [("type", .str "Point"), ("coordinates", .list [.int 7, .int 50])], .list [.str "red", .null]]

/-- Such a list as an operand, alone, beside a null, and as an argument of a function. -/
theorem sameOutcome_mixedList :
    TypedOperand mixedList ∧
      SameOutcome (Factory.compare.call ⟨[.str "<>", .str "bands", .ofDatum mixedList], []⟩)
        (read ["Nearest"] (formOf "<>" [propertyObject "bands", mixedList])) ∧
      SameOutcome (Factory.between.call ⟨[.str "bands", .ofDatum mixedList, .ofDatum .null], []⟩)
        (read ["Nearest"] (formOf "between" [propertyObject "bands", mixedList, .null])) ∧
      SameOutcome (Factory.isIn.call ⟨[.str "bands", .ofDatum (.list [.str "red", mixedList])], []⟩)
        (read ["Nearest"] (formOf "in" [propertyObject "bands", .list [.str "red", mixedList]])) ∧
      SameOutcome (Factory.function.call ⟨[.str "NEAREST", .ofDatum mixedList], []⟩)
        (read ["Nearest"] (formOf "NEAREST" [mixedList])) := by
  have place : TypedOperand (.object [("type", .str "Point"), ("coordinates", .list [.int 7, .int 50])]) :=
    .object rfl (by decide)
  have inner : TypedOperand (.list [.str "red", .null]) := .list (by simp [TypedOperand.str, TypedOperand.null])
  have typed : TypedOperand mixedList := .list (by simp [TypedOperand.bool, place, inner])
  obtain ⟨compared, ranged, among, called⟩ := sameOutcome_factories ["Nearest"] "bands"
  exact ⟨typed, compared .neq _ typed, ranged _ _ typed .null, among _ (by simp [TypedOperand.str, typed]),
    called "NEAREST" [mixedList] (by decide) (by decide) (by simp [typed])⟩

end Document

end CatalogFilter
