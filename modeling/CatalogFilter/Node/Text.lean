import CatalogFilter.Datum.Text
import CatalogFilter.Node.Basic

/-! # Trees in messages

* `Node.shown`: a tree as messages about wrong values show it, variant by variant with its fields.
* `Node.isPrintable`: whether it has such a text, which it has not if it holds an integer that has none. -/

namespace CatalogFilter

/-- Values between brackets, a comma behind a single one. -/
def shownTuple : List String → String
  | [x] => "(" ++ x ++ ",)"
  | xs => "(" ++ String.intercalate ", " xs ++ ")"

/-- A member of a vocabulary. -/
def shownMember (vocabulary name symbol : String) : String :=
  "<" ++ vocabulary ++ "." ++ name ++ ": " ++ Text.quote symbol ++ ">"

/-- The name of a comparison within its vocabulary. -/
def ComparisonOp.memberName : ComparisonOp → String
  | .eq => "EQ"
  | .neq => "NEQ"
  | .lt => "LT"
  | .lte => "LTE"
  | .gt => "GT"
  | .gte => "GTE"

/-- A time that may be missing. -/
def shownBound : Option OffsetDateTime → String
  | none => "None"
  | some t => Datum.shownDateTime (.aware t)

/-- A variant with its fields. -/
def shownFields (variant : String) (fields : List (String × String)) : String :=
  variant ++ "(" ++ String.intercalate ", " (fields.map fun (name, text) => name ++ "=" ++ text) ++ ")"

/-- A property with its name. -/
def Property.shown (p : Property) : String :=
  shownFields "Property" [("name", Text.quote p.name)]

/-- A geometry with its parts. -/
def Geometry.shown (g : Geometry) : String :=
  shownFields "Geometry"
    [("type", Text.quote g.type), ("coordinates", g.coordinates.shown),
      ("bbox", (g.bbox.map fun ns => shownTuple (ns.map Number.text)).getD "None")]

/-- A box with its numbers. -/
def shownBox (extent : List Number) : String :=
  shownFields "BoundingBox" [("extent", shownTuple (extent.map Number.text))]

/-- A shape with its parts. -/
def Shape.shown : Shape → String
  | .geometry g => g.shown
  | .bbox extent => shownBox extent

/-- A time with its parts. -/
def Instant.shown : Instant → String
  | .timestamp t => shownFields "Timestamp" [("value", shownBound (some t))]
  | .date d => shownFields "Date" [("value", Datum.shownDate d)]
  | .interval start stop => shownFields "Interval" [("start", shownBound start), ("end", shownBound stop)]

namespace Node

mutual

/-- A tree with all its fields. -/
def shown : Node → String
  | .property p => p.shown
  | .literal value =>
    let kind := value.kind.symbol
    shownFields "Literal"
      [("value", Datum.shown value.toData), ("kind", shownMember "LiteralKind" kind.toUpper kind)]
  | .timestamp t => (Instant.timestamp t).shown
  | .date d => (Instant.date d).shown
  | .interval start stop => (Instant.interval start stop).shown
  | .geometry g => g.shown
  | .bbox extent => shownBox extent
  | .array elements => shownFields "ArrayLiteral" [("elements", shownTuple (shownAll elements))]
  | .and children => shownFields "And" [("children", shownTuple (shownAll children))]
  | .or children => shownFields "Or" [("children", shownTuple (shownAll children))]
  | .not child => shownFields "Not" [("child", shown child)]
  | .comparison op left right =>
    shownFields "Comparison"
      [("op", shownMember "ComparisonOp" op.memberName op.symbol), ("left", left.shown),
        ("right", shown right)]
  | .between subject lower upper =>
    shownFields "Between" [("subject", subject.shown), ("lower", shown lower), ("upper", shown upper)]
  | .like subject pattern =>
    shownFields "Like" [("subject", subject.shown), ("pattern", Text.quote pattern)]
  | .isIn subject values =>
    shownFields "In" [("subject", subject.shown), ("values", shownTuple (shownAll values))]
  | .isNull subject => shownFields "IsNull" [("subject", subject.shown)]
  | .spatial op left right =>
    shownFields "SpatialComparison"
      [("op", shownMember "SpatialOp" op.symbol.toUpper op.symbol), ("left", left.shown),
        ("right", right.shown)]
  | .temporal op left right =>
    shownFields "TemporalComparison"
      [("op", shownMember "TemporalOp" op.symbol.toUpper op.symbol), ("left", left.shown),
        ("right", right.shown)]
  | .arrayComparison op left right =>
    shownFields "ArrayComparison"
      [("op", shownMember "ArrayOp" op.symbol.toUpper op.symbol), ("left", shown left),
        ("right", shown right)]
  | .function name args =>
    shownFields "FunctionCall" [("name", Text.quote name), ("args", shownTuple (shownAll args))]

/-- `shown` of each tree. -/
def shownAll : List Node → List String
  | [] => []
  | n :: rest => shown n :: shownAll rest

end

end Node

/-! ## Trees that have a text -/

/-- Whether a geometry has a text. -/
def Geometry.isPrintable (g : Geometry) : Bool :=
  g.coordinates.isPrintable && (g.bbox.getD []).all Number.isPrintable

/-- Whether a shape has a text. -/
def Shape.isPrintable : Shape → Bool
  | .geometry g => g.isPrintable
  | .bbox extent => extent.all Number.isPrintable

namespace Node

mutual

/-- Whether a tree has a text. -/
def isPrintable : Node → Bool
  | .literal value => value.isPrintable
  | .geometry g => g.isPrintable
  | .bbox extent => extent.all Number.isPrintable
  | .array elements => allPrintable elements
  | .and children => allPrintable children
  | .or children => allPrintable children
  | .not child => isPrintable child
  | .comparison _ _ right => isPrintable right
  | .between _ lower upper => isPrintable lower && isPrintable upper
  | .isIn _ values => allPrintable values
  | .spatial _ _ right => right.isPrintable
  | .arrayComparison _ left right => isPrintable left && isPrintable right
  | .function _ args => allPrintable args
  | _ => true

/-- `isPrintable` of each tree. -/
def allPrintable : List Node → Bool
  | [] => true
  | n :: rest => isPrintable n && allPrintable rest

end

end Node

end CatalogFilter
