import CatalogFilter.Datum.Text
import CatalogFilter.Dialect.Basic

/-! # Well-known text of geometries

* `Wkt.position`, `Wkt.ring`, `Wkt.rings`: coordinates by their depth.
* `Geometry.toWkt`: the text of a geometry of one of the six types. -/

namespace CatalogFilter

namespace Wkt

/-- The parts of a value that has to have parts. -/
def parts (d : Datum) : Except Error (List Datum) :=
  match d.iterate? with
  | some items => .ok items
  | none => .error .wrongKind

/-- Numbers with spaces between them. -/
def position (d : Datum) : Except Error String := do
  let items ← parts d
  printing (items.all Datum.isPrintable) (String.intercalate " " (items.map Datum.plain))

/-- Texts in parentheses with commas between them. -/
def listed (texts : List String) : String :=
  "(" ++ String.intercalate ", " texts ++ ")"

/-- Positions in parentheses. -/
def ring (d : Datum) : Except Error String := do
  let items ← parts d
  let texts ← items.mapM position
  .ok (listed texts)

/-- Rings in parentheses. -/
def rings (d : Datum) : Except Error String := do
  let items ← parts d
  let texts ← items.mapM ring
  .ok (listed texts)

/-- Lists of rings in parentheses. -/
def groups (d : Datum) : Except Error String := do
  let items ← parts d
  let texts ← items.mapM rings
  .ok (listed texts)

end Wkt

/-- The well-known text of a geometry. -/
def Geometry.toWkt (g : Geometry) : Except Error String :=
  match g.type with
  | "Point" => (Wkt.position g.coordinates).map fun text => "POINT(" ++ text ++ ")"
  | "MultiPoint" => (Wkt.ring g.coordinates).map ("MULTIPOINT" ++ ·)
  | "LineString" => (Wkt.ring g.coordinates).map ("LINESTRING" ++ ·)
  | "MultiLineString" => (Wkt.rings g.coordinates).map ("MULTILINESTRING" ++ ·)
  | "Polygon" => (Wkt.rings g.coordinates).map ("POLYGON" ++ ·)
  | "MultiPolygon" => (Wkt.groups g.coordinates).map ("MULTIPOLYGON" ++ ·)
  | type => .error (.unsupportedNode ("Geometry(" ++ type ++ ")") Dialect.text.name)

end CatalogFilter
