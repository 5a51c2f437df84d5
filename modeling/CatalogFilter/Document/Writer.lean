import CatalogFilter.Document.Argument
import CatalogFilter.Error
import CatalogFilter.Json.Writer

/-! # Writing filter documents

* `Node.toDocument`: the decoded document of a tree. Expressions become objects with an operator in lower case
  and arguments, properties objects with a name, and literals stand for themselves.
* `Node.dumps`: its JSON text. -/

namespace CatalogFilter

/-- The decoded form of a geometry. -/
def Geometry.toGeoJson (g : Geometry) (withBox : Bool) : Datum :=
  let members := [("type", .str g.type), ("coordinates", g.coordinates.thaw)]
  match withBox, g.bbox with
  | true, some ns => .object (members ++ [("bbox", .list (ns.map .num))])
  | _, _ => .object members

/-- The decoded form of a box. -/
def boxDocument (extent : List Number) : Datum :=
  .object [("bbox", .list (extent.map .num))]

/-- The decoded form of a shape. -/
def Shape.toDocument : Shape → Datum
  | .geometry g => g.toGeoJson true
  | .bbox extent => boxDocument extent

/-- The decoded form of an interval. -/
def intervalDocument (start stop : Option OffsetDateTime) : Datum :=
  .object [("interval", .list [.str (Document.writeBound start), .str (Document.writeBound stop)])]

/-- The decoded form of a time. -/
def Instant.toDocument : Instant → Datum
  | .timestamp t => .object [("timestamp", .str t.text)]
  | .date d => .object [("date", .str d.text)]
  | .interval start stop => intervalDocument start stop

/-- The decoded form of a property. -/
def Property.toDocument (p : Property) : Datum :=
  .object [("property", .str p.name)]

/-- An expression object. -/
def expressionDocument (op : String) (args : List Datum) : Datum :=
  .object [("op", .str (Text.lower op)), ("args", .list args)]

namespace Node

mutual

/-- The decoded document of a tree. -/
def toDocument : Node → Datum
  | .property p => p.toDocument
  | .literal value => value.toData
  | .timestamp t => (Instant.timestamp t).toDocument
  | .date d => (Instant.date d).toDocument
  | .interval start stop => intervalDocument start stop
  | .geometry g => g.toGeoJson true
  | .bbox extent => boxDocument extent
  | .array elements => .list (toDocuments elements)
  | .and children => expressionDocument "and" (toDocuments children)
  | .or children => expressionDocument "or" (toDocuments children)
  | .not child => expressionDocument "not" [toDocument child]
  | .comparison op left right => expressionDocument op.symbol [left.toDocument, toDocument right]
  | .between subject lower upper =>
    expressionDocument "between" [subject.toDocument, toDocument lower, toDocument upper]
  | .like subject pattern => expressionDocument "like" [subject.toDocument, .str pattern]
  | .isIn subject values => expressionDocument "in" [subject.toDocument, .list (toDocuments values)]
  | .isNull subject => expressionDocument "isnull" [subject.toDocument]
  | .spatial op left right => expressionDocument op.symbol [left.toDocument, right.toDocument]
  | .temporal op left right => expressionDocument op.symbol [left.toDocument, right.toDocument]
  | .arrayComparison op left right => expressionDocument op.symbol [toDocument left, toDocument right]
  | .function name args => expressionDocument name (toDocuments args)

/-- The decoded documents of some trees. -/
def toDocuments : List Node → List Datum
  | [] => []
  | n :: rest => toDocument n :: toDocuments rest

end

/-- The JSON text of a tree. -/
def dumps (n : Node) (style : Json.Style) : Except Error String :=
  match Json.write? style n.toDocument with
  | some text => .ok text
  | none => .error .wrongKind

theorem toDocuments_eq_map (ns : List Node) : toDocuments ns = ns.map toDocument := by
  induction ns with
  | nil => rfl
  | cons n rest ih => rw [toDocuments, ih, List.map_cons]

end Node

end CatalogFilter
