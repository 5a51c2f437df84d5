import CatalogFilter.Coerce

/-! # Functions that build nodes

* `Factory`: the functions by which callers build nodes from plain values.
* `Factory.call`: applies one to positional and named arguments. -/

namespace CatalogFilter

/-- The functions that build nodes. -/
inductive Factory where
  | property
  | subject
  | operand
  | shape
  | instant
  | timestamp
  | date
  | interval
  | bbox
  | geometry
  | and
  | or
  | not
  | compare
  | comparison (op : ComparisonOp)
  | between
  | like
  | isIn
  | isNull
  | spatial
  | spatialRelation (op : SpatialOp)
  | temporal
  | temporalRelation (op : TemporalOp)
  | array
  | arrayRelation (op : ArrayOp)
  | function
  | wrapper (name : String)
  deriving DecidableEq

namespace Factory

/-- Applies a function of one argument. -/
def one (args : Arguments) (parameter : String) (f : Value → Except Error Node) :
    Except Error Node := do
  match ← args.bind [parameter] 1 with
  | [some a] => f a
  | _ => .error .wrongKind

/-- Applies a function of two arguments. -/
def two (args : Arguments) (first second : String) (f : Value → Value → Except Error Node) :
    Except Error Node := do
  match ← args.bind [first, second] 2 with
  | [some a, some b] => f a b
  | _ => .error .wrongKind

/-- Applies a function of three arguments. -/
def three (args : Arguments) (first second third : String)
    (f : Value → Value → Value → Except Error Node) : Except Error Node := do
  match ← args.bind [first, second, third] 3 with
  | [some a, some b, some c] => f a b c
  | _ => .error .wrongKind

/-- The node that a function builds from arguments. -/
def call (f : Factory) (args : Arguments) : Except Error Node :=
  match f with
  | .property => one args "name" Construct.property
  | .subject => one args "value" fun v => liftParse ((Coerce.subject v).map .property)
  | .operand => one args "value" fun v => liftParse (Coerce.operand v)
  | .shape => one args "value" fun v => liftParse (Coerce.shape v)
  | .instant => one args "value" Coerce.instant
  | .timestamp => one args "value" Coerce.timestamp
  | .date => one args "value" Coerce.date
  | .interval => do
    match ← args.bind ["start", "end"] 0 with
    | [start, stop] => Coerce.interval (start.getD .null) (stop.getD .null)
    | _ => .error .wrongKind
  | .bbox => do liftParse (Coerce.box (← args.allPositional))
  | .geometry => do
    match ← args.bind ["value", "coordinates"] 1 with
    | [some v, coordinates] => liftParse (Coerce.geometry v (coordinates.getD .null))
    | _ => .error .wrongKind
  | .and => do liftParse (Construct.conjunction (← args.allPositional))
  | .or => do liftParse (Construct.disjunction (← args.allPositional))
  | .not => one args "expr" fun v => liftParse (Construct.negation v)
  | .compare => three args "op" "left" "right" Coerce.compare
  | .comparison op => two args "left" "right" (Coerce.compare (.str op.symbol))
  | .between => three args "value" "lower" "upper" Coerce.between
  | .like => two args "value" "pattern" Coerce.like
  | .isIn => two args "value" "values" Coerce.isIn
  | .isNull => one args "value" Coerce.isNull
  | .spatial => three args "op" "left" "right" Coerce.spatial
  | .spatialRelation op => two args "left" "right" (Coerce.spatial (.str op.symbol))
  | .temporal => three args "op" "left" "right" Coerce.temporal
  | .temporalRelation op => two args "left" "right" (Coerce.temporal (.str op.symbol))
  | .array => three args "op" "left" "right" Coerce.array
  | .arrayRelation op => two args "left" "right" (Coerce.array (.str op.symbol))
  | .function =>
    match args.positional with
    | name :: rest => if args.named.isEmpty then Coerce.function name rest else .error .wrongKind
    | [] => one args "name" fun name => Coerce.function name []
  | .wrapper name => one args "value" fun v => Coerce.function (.str name) [v]

end Factory

end CatalogFilter
