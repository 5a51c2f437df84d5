import CatalogFilter.Number.Notation
import CatalogFilter.Text.Quoted

/-! # Typed geometries

* `Coordinates`: positions of binary numbers, nested as deep as the type of a geometry asks.
* `TypedGeometry`: a geometry whose form has been checked before, with its box if it has one.
* `TypedGeometry.shown`: its text in messages, in which every number of a position has a name. -/

namespace CatalogFilter

/-- Positions and lists of them. -/
inductive Coordinates where
  | position (numbers : List Binary64)
  | list (items : List Coordinates)

/-- A geometry of a checked form. -/
structure TypedGeometry where
  type : String
  box : Option (List Binary64)
  /-- None for a collection, whose members are not kept. -/
  coordinates : Option Coordinates

namespace Coordinates

/-- The names of the numbers of a position. -/
def axes : List String :=
  ["longitude", "latitude", "altitude"]

/-- A position with the names of its numbers. -/
def shownPosition (numbers : List Binary64) : String :=
  let parts := (axes.zip numbers).map fun (axis, x) => axis ++ "=" ++ x.text
  let kind := if numbers.length = 2 then "Position2D" else "Position3D"
  kind ++ "(" ++ String.intercalate ", " parts ++ ")"

mutual

/-- The text of coordinates in messages. -/
def shown : Coordinates → String
  | .position numbers => shownPosition numbers
  | .list items => "[" ++ String.intercalate ", " (shownAll items) ++ "]"

/-- `shown` of each item. -/
def shownAll : List Coordinates → List String
  | [] => []
  | c :: rest => shown c :: shownAll rest

end

end Coordinates

namespace TypedGeometry

/-- The text of a box in messages. -/
def shownBox : Option (List Binary64) → String
  | none => "None"
  | some numbers => "(" ++ String.intercalate ", " (numbers.map Binary64.text) ++ ")"

/-- The text of a typed geometry in messages: its type with all fields in order. -/
def shown (g : TypedGeometry) : String :=
  let fields := ["bbox=" ++ shownBox g.box, "type=" ++ Text.quote g.type] ++
    (g.coordinates.map fun c => "coordinates=" ++ c.shown).toList
  g.type ++ "(" ++ String.intercalate ", " fields ++ ")"

end TypedGeometry

end CatalogFilter
