import CatalogFilter.Datum.Basic

/-! # Typed geometries as data

* `TypedGeometry.ofMembers`: the typed geometry of a GeoJSON object, whose numbers become binary ones.
* `TypedGeometry.fields`: its fields in order.
* `TypedGeometry.toGeoJson`: its GeoJSON object, in which missing fields are left out. -/

namespace CatalogFilter

/-- The types of typed geometries that can stand for an operand. -/
def geometryTypes : List String :=
  ["Point", "MultiPoint", "LineString", "MultiLineString", "Polygon", "MultiPolygon"]

namespace Coordinates

variable {α : Type}

/-- The binary number of a number of GeoJSON. -/
def number? : Data α → Option Binary64
  | .num n => some n.toFloat
  | _ => none

/-- The numbers of an array that begins with one. -/
def position? : List (Data α) → Option (List Binary64)
  | .num n :: rest => some (n.toFloat :: rest.filterMap number?)
  | _ => none

mutual

/-- The coordinates of a GeoJSON array: an array of numbers is a position. -/
def ofData : Data α → Coordinates
  | .list items =>
    match position? items with
    | some numbers => .position numbers
    | none => .list (ofAll items)
  | .tuple items =>
    match position? items with
    | some numbers => .position numbers
    | none => .list (ofAll items)
  | _ => .list []

/-- The coordinates of each item. -/
def ofAll : List (Data α) → List Coordinates
  | [] => []
  | d :: rest => ofData d :: ofAll rest

end

mutual

/-- Coordinates as data; positions are tuples. -/
def toData : Coordinates → Data α
  | .position numbers => .tuple (numbers.map fun x => .num (.float x))
  | .list items => .list (toAll items)

/-- `toData` of each item. -/
def toAll : List Coordinates → List (Data α)
  | [] => []
  | c :: rest => toData c :: toAll rest

end

end Coordinates

namespace TypedGeometry

variable {α : Type}

/-- The numbers of a box. -/
def boxOf : Data α → Option (List Binary64)
  | .list items => some (items.filterMap Coordinates.number?)
  | .tuple items => some (items.filterMap Coordinates.number?)
  | _ => none

/-- The typed geometry of the members of a GeoJSON object. -/
def ofMembers (members : List (String × Data α)) : TypedGeometry :=
  let type := match members.lookup "type" with
    | some (.str s) => s
    | _ => ""
  ⟨type, (members.lookup "bbox").bind boxOf, (members.lookup "coordinates").map Coordinates.ofData⟩

/-- The fields in order; a missing box is null. -/
def fields (g : TypedGeometry) : List (String × Data α) :=
  let box : Data α := match g.box with
    | some numbers => .tuple (numbers.map fun x => .num (.float x))
    | none => .null
  [("bbox", box), ("type", .str g.type)] ++ (g.coordinates.map fun c => ("coordinates", c.toData)).toList

/-- The GeoJSON object. -/
def toGeoJson (g : TypedGeometry) : Data α :=
  .object (g.fields.filter fun m => match m.2 with
    | .null => false
    | _ => true)

end TypedGeometry

end CatalogFilter
