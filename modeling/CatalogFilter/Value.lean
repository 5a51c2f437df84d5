import CatalogFilter.Datum.GeoJson
import CatalogFilter.Error
import CatalogFilter.Node.Text

/-! # Values offered by callers

* `Offered`: what callers may hand in besides data: nodes, objects that know their GeoJSON form, typed geometries, objects
  that can be iterated, such as sets and generators, and objects of other kinds, of which there is only what messages
  show.
* `Value`: data with such values inside; `Value.toDatum` keeps of them what messages and documents show, and
  `Value.ofDatum` offers a decoded value.
* `Arguments`: positional and named arguments of a call, and `Arguments.bind` for a list of parameters. -/

namespace CatalogFilter

/-- What callers may hand in besides data. -/
inductive Offered where
  | node (n : Node)
  /-- An object with a GeoJSON form. -/
  | geoObject (form : Datum)
  | typed (g : TypedGeometry)
  /-- An object of another kind that gives some values when it is iterated. -/
  | iterable (f : Foreign) (items : List (Data Offered))
  /-- An object of another kind. -/
  | foreign (f : Foreign)

/-- Data that may have nodes and geometries inside. -/
abbrev Value := Data Offered

/-- What messages and documents show of what is no data. -/
def Offered.toForeign : Offered → Foreign
  | .node n => ⟨n.variant, n.shown, n.isPrintable, none⟩
  | .geoObject _ => ⟨"GeoObject", "GeoObject", true, none⟩
  | .typed g => ⟨g.type, g.shown, true, some g⟩
  | .iterable f _ => f
  | .foreign f => f

namespace Value

/-- The value as a decoded value. -/
def toDatum (v : Value) : Datum :=
  v.map Offered.toForeign

/-- A decoded value as a value that is offered. -/
def ofDatum (d : Datum) : Value :=
  d.map Offered.foreign

/-- A node as a value. -/
def ofNode (n : Node) : Value :=
  .other (.node n)

/-- The node that a value is. -/
def node? : Value → Option Node
  | .other (.node n) => some n
  | _ => none

/-- The name of the kind of a value in messages about arguments. -/
def kindName (v : Value) : String :=
  v.toDatum.kindName

/-- The values that iterating gives; a typed geometry gives its fields as pairs of name and value. -/
def items : Value → Except Error (List Value)
  | .other (.typed g) => .ok (g.fields.map fun (name, v) => .tuple [.str name, v])
  | .other (.iterable _ items) => .ok items
  | v =>
    match v.iterate? with
    | some items => .ok items
    | none => .error .wrongKind

/-- Messages and documents show of a decoded value all there is. -/
@[simp] theorem toDatum_ofDatum (d : Datum) : (ofDatum d).toDatum = d :=
  Data.map_map_of_inverse (fun _ => rfl) d

@[simp] theorem node?_ofNode (n : Node) : node? (ofNode n) = some n := rfl

end Value

/-! ## Arguments of calls -/

/-- Positional and named arguments of a call. -/
structure Arguments where
  positional : List Value
  named : List (String × Value)

namespace Arguments

/-- The value of each parameter, if it is given; an error if one of the first `required` parameters is missing,
an argument is left over, or a parameter is given twice. -/
def bind (args : Arguments) (parameters : List String) (required : Nat) : Except Error (List (Option Value)) :=
  let filled := args.positional.length
  let free := parameters.drop filled
  let values := args.positional.map some ++ free.map fun name => args.named.lookup name
  if parameters.length < filled then .error .wrongKind
  else if args.named.any fun m => !free.contains m.1 then .error .wrongKind
  else if (values.take required).any Option.isNone then .error .wrongKind
  else .ok values

/-- The positional arguments, if there are no named ones. -/
def allPositional (args : Arguments) : Except Error (List Value) :=
  if args.named.isEmpty then .ok args.positional else .error .wrongKind

end Arguments

end CatalogFilter
