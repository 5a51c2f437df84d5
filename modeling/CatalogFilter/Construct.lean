import CatalogFilter.Node.Check
import CatalogFilter.Value

/-! # Building nodes from values

* `Construct.subject`, `Construct.node`, `Construct.expression` and their like: the check of one field.
* `Construct.literal`, `Construct.geometry`, `Construct.spatial` and their like: a node of one variant from the
  values of its fields. Values are converted first, in the order of the fields, and then checked in the same
  order; the first failure is reported.
* `Construct.byVariant`: a node from the name of its variant and its named fields. -/

namespace CatalogFilter.Construct

/-! ## Fields -/

/-- The node that a field holds. -/
def node (visit field : String) (v : Value) : Except ParseError Node :=
  match v.node? with
  | some n => .ok n
  | none => .error (.shape visit (.notNode field v.kindName))

/-- The property that a field holds; `op` is named when it holds another node. -/
def subject (visit op field : String) (v : Value) : Except ParseError Property := do
  match ← node visit field v with
  | .property p => .ok p
  | n => .error (.shape op (.wrongVariant field "a property" n.variant))

/-- The connective or predicate that a field holds. -/
def expression (visit field : String) (v : Value) : Except ParseError Node := do
  let n ← node visit field v
  if n.isExpression then .ok n else .error (.shape visit (.notExpression field n.variant))

/-- The side of an array relation that a field holds. -/
def arraySide (op field : String) (v : Value) : Except ParseError Node := do
  let n ← node "array_comparison" field v
  if n.isArraySide then .ok n
  else .error (.shape op (.wrongVariant field "an array, property or function" n.variant))

/-- The results of a check on each value, or the first failure. -/
def each (check : Value → Except ParseError Node) : List Value → Except ParseError (List Node)
  | [] => .ok []
  | v :: rest => do
    let n ← check v
    let ns ← each check rest
    .ok (n :: ns)

/-- The error of a value that is no member of a vocabulary, if the value can be shown. -/
def unknown (vocabulary : String) (v : Value) : Error :=
  match v.toDatum.shown? with
  | some shown => .unknownSymbol vocabulary shown
  | none => .tooManyDigits

/-- The member of a vocabulary that a value names. -/
def symbol {α : Type} (vocabulary : String) (ofSymbol? : String → Option α) (v : Value) : Except Error α :=
  match v with
  | .str s =>
    match ofSymbol? s with
    | some a => .ok a
    | none => .error (unknown vocabulary v)
  | _ => .error (unknown vocabulary v)

/-- A date and time, taken to be universal time if it has no offset. -/
def dateTime? : Value → Option OffsetDateTime
  | .datetime d => some d.toAware
  | _ => none

/-- An end of an interval. -/
def bound (v : Value) : Except Error (Option OffsetDateTime) :=
  match v with
  | .null => .ok none
  | v =>
    match dateTime? v with
    | some t => .ok (some t)
    | none => .error .wrongKind

/-! ## Operands -/

/-- The property of a name. -/
def property (name : Value) : Except Error Node :=
  match name with
  | .str s => liftParse ((Property.make s).map .property)
  | _ => .error (.parse (.shape "property" (.emptyName "name")))

/-- The kind of a value that has to be a scalar. -/
def scalar (v : Value) : Except ParseError Scalar :=
  match Scalar.ofData? v with
  | some s => .ok s
  | none => .error (notScalarError v.kindName)

/-- The literal of a value; a kind that is given has to be the value's own. -/
def literal (value : Value) (kind : Option Value) : Except Error Node := do
  match kind with
  | none => .ok (.literal (← liftParse (scalar value)))
  | some kind =>
    let kind ← symbol "LiteralKind" LiteralKind.ofSymbol? kind
    let s ← liftParse (scalar value)
    if s.kind = kind then .ok (.literal s)
    else do
      let shown ← printing s.isPrintable value.toDatum.shown
      .error (.parse (.shape "literal" (.otherKind shown kind.symbol)))

/-- The timestamp of a date and time. -/
def timestamp (value : Value) : Except Error Node :=
  match dateTime? value with
  | some t => .ok (.timestamp t)
  | none => .error .wrongKind

/-- The date of a calendar date. -/
def date (value : Value) : Except Error Node :=
  match value with
  | .date d => .ok (.date d)
  | _ => .error (.parse (.shape "date" .notCalendarDate))

/-- The interval between two times or open ends. -/
def interval (start stop : Value) : Except Error Node := do
  let start ← bound start
  let stop ← bound stop
  .ok (.interval start stop)

/-- The geometry of a type, coordinates, and a box unless that is null. -/
def geometry (type coordinates bbox : Value) : Except Error Node := do
  let box ← match bbox with
    | .null => .ok none
    | v => (v.items).map fun items => some (items.map Value.toDatum)
  match type with
  | .str type => liftParse ((Geometry.make type coordinates.toDatum box).map .geometry)
  | _ => .error (.parse (.geometry "geometry" .noType))

/-- The box of the items of a value. -/
def box (extent : Value) : Except Error Node := do
  let items ← extent.items
  liftParse ((Node.makeBox (items.map Value.toDatum)).map .bbox)

/-- The array of some nodes. -/
def array (elements : Value) : Except Error Node := do
  let items ← elements.items
  liftParse ((each (node "array" "elements") items).map .array)

/-! ## Connectives -/

/-- The conjunction of some expressions. -/
def conjunction (children : List Value) : Except ParseError Node :=
  (each (expression "and" "children") children).map .and

/-- The disjunction of some expressions. -/
def disjunction (children : List Value) : Except ParseError Node :=
  (each (expression "or" "children") children).map .or

/-- The negation of an expression. -/
def negation (child : Value) : Except ParseError Node :=
  (expression "not" "child" child).map .not

/-! ## Predicates -/

/-- A comparison. -/
def comparison (op left right : Value) : Except Error Node := do
  let op ← symbol "ComparisonOp" ComparisonOp.ofSymbol? op
  let left ← liftParse (subject "comparison" op.symbol "left" left)
  let right ← liftParse (node "comparison" "right" right)
  .ok (.comparison op left right)

/-- A range test. -/
def between (subj lower upper : Value) : Except Error Node := do
  let subj ← liftParse (subject "between" "between" "subject" subj)
  let lower ← liftParse (node "between" "lower" lower)
  let upper ← liftParse (node "between" "upper" upper)
  .ok (.between subj lower upper)

/-- A pattern match. -/
def like (subj pattern : Value) : Except Error Node := do
  let subj ← liftParse (subject "like" "like" "subject" subj)
  match pattern with
  | .str pattern => .ok (.like subj pattern)
  | _ => .error .wrongKind

/-- A membership test. -/
def isIn (subj values : Value) : Except Error Node := do
  let items ← values.items
  let subj ← liftParse (subject "in" "in" "subject" subj)
  liftParse ((each (node "in" "values") items).map (.isIn subj))

/-- A test for no value. -/
def isNull (subj : Value) : Except Error Node :=
  liftParse ((subject "isnull" "isnull" "subject" subj).map .isNull)

/-- A spatial relation. -/
def spatial (op left right : Value) : Except Error Node := do
  let op ← symbol "SpatialOp" SpatialOp.ofSymbol? op
  let left ← liftParse (subject "spatial" op.symbol "left" left)
  let n ← liftParse (node "spatial" "right" right)
  match n.shape? with
  | some s => .ok (.spatial op left s)
  | none => .error (.parse (.geometry op.symbol (.notShape "right" n.variant)))

/-- A temporal relation. -/
def temporal (op left right : Value) : Except Error Node := do
  let op ← symbol "TemporalOp" TemporalOp.ofSymbol? op
  let left ← liftParse (subject "temporal" op.symbol "left" left)
  let n ← liftParse (node "temporal" "right" right)
  match n.instant? with
  | some t => .ok (.temporal op left t)
  | none => .error (.parse (.shape op.symbol (.wrongVariant "right" "a timestamp, date or interval" n.variant)))

/-- An array relation. -/
def arrayComparison (op left right : Value) : Except Error Node := do
  let op ← symbol "ArrayOp" ArrayOp.ofSymbol? op
  let left ← liftParse (arraySide op.symbol "left" left)
  let right ← liftParse (arraySide op.symbol "right" right)
  .ok (.arrayComparison op left right)

/-- A function call. -/
def function (name args : Value) : Except Error Node := do
  let items ← args.items
  match name with
  | .str name =>
    liftParse (checkFunctionName name)
    liftParse ((each (node "function" "args") items).map (.function name))
  | _ => .error (.parse (.shape "function" (.emptyName "name")))

/-! ## By name -/

/-- The node of a variant from its named fields. -/
def byVariant (variant : String) (named : List (String × Value)) : Except Error Node := do
  let bind (parameters : List String) (required : Nat) : Except Error (List (Option Value)) :=
    Arguments.bind ⟨[], named⟩ parameters required
  let one (field : String) (make : Value → Except Error Node) : Except Error Node := do
    match ← bind [field] 1 with
    | [some a] => make a
    | _ => .error .wrongKind
  let two (first second : String) (make : Value → Value → Except Error Node) : Except Error Node := do
    match ← bind [first, second] 2 with
    | [some a, some b] => make a b
    | _ => .error .wrongKind
  let three (first second third : String) (make : Value → Value → Value → Except Error Node) :
      Except Error Node := do
    match ← bind [first, second, third] 3 with
    | [some a, some b, some c] => make a b c
    | _ => .error .wrongKind
  match variant with
  | "Property" => one "name" property
  | "Literal" =>
    match ← bind ["value", "kind"] 1 with
    | [some value, kind] => literal value kind
    | _ => .error .wrongKind
  | "Timestamp" => one "value" timestamp
  | "Date" => one "value" date
  | "Interval" =>
    match ← bind ["start", "end"] 0 with
    | [start, stop] => interval (start.getD .null) (stop.getD .null)
    | _ => .error .wrongKind
  | "Geometry" =>
    match ← bind ["type", "coordinates", "bbox"] 2 with
    | [some type, some coordinates, bbox] => geometry type coordinates (bbox.getD .null)
    | _ => .error .wrongKind
  | "BoundingBox" => one "extent" box
  | "ArrayLiteral" => one "elements" array
  | "And" => one "children" fun v => do liftParse (conjunction (← v.items))
  | "Or" => one "children" fun v => do liftParse (disjunction (← v.items))
  | "Not" => one "child" fun v => liftParse (negation v)
  | "Comparison" => three "op" "left" "right" comparison
  | "Between" => three "subject" "lower" "upper" between
  | "Like" => two "subject" "pattern" like
  | "In" => two "subject" "values" isIn
  | "IsNull" => one "subject" isNull
  | "SpatialComparison" => three "op" "left" "right" spatial
  | "TemporalComparison" => three "op" "left" "right" temporal
  | "ArrayComparison" => three "op" "left" "right" arrayComparison
  | "FunctionCall" => two "name" "args" function
  | _ => .error .missingOperation

end CatalogFilter.Construct
