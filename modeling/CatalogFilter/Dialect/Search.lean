import CatalogFilter.Dialect.Basic
import CatalogFilter.Dialect.Pattern

/-! # Search queries

* `Query`: a query of a search index, with `Query.toDatum` its decoded JSON form.
* `Query.Operand`: the values that clauses compare with.
* `Query.Bounds`: the bounds of a range; one that is missing does not restrict it.
* `Node.toQuery`: the query of a tree. Properties are looked up in a map from their names to index fields. -/

namespace CatalogFilter

namespace Query

/-! ## Parts of queries -/

/-- A value that a clause compares with. -/
inductive Operand where
  | scalar (value : Scalar)
  | timestamp (t : OffsetDateTime)
  | date (d : Date)
  | list (items : List Operand)

namespace Operand

mutual

/-- The decoded form of a value; times are texts. -/
def toDatum : Operand → Datum
  | .scalar value => value.toData
  | .timestamp t => .str t.text
  | .date d => .str d.text
  | .list items => .list (toDatums items)

/-- The decoded forms of some values. -/
def toDatums : List Operand → List Datum
  | [] => []
  | v :: rest => toDatum v :: toDatums rest

end

end Operand

/-- The bounds of a range: above, from, up to and below. -/
structure Bounds where
  gt : Option Operand := none
  gte : Option Operand := none
  lte : Option Operand := none
  lt : Option Operand := none

namespace Bounds

/-- The bounds that only the given value meets. -/
def exactly (v : Operand) : Bounds :=
  ⟨none, some v, some v, none⟩

/-- The bounds between two values, both included. -/
def between (lower upper : Operand) : Bounds :=
  ⟨none, some lower, some upper, none⟩

/-- The bounds in the order in which they are written, each with its name. -/
def named (b : Bounds) : List (String × Operand) :=
  let entry (name : String) (v : Option Operand) := v.toList.map fun v => (name, v)
  entry "gt" b.gt ++ entry "gte" b.gte ++ entry "lte" b.lte ++ entry "lt" b.lt

/-- The decoded form of bounds. -/
def toDatum (b : Bounds) : Datum :=
  .object (b.named.map fun (name, v) => (name, v.toDatum))

end Bounds

/-- Relations of indexed shapes. -/
inductive ShapeRelation where
  | intersects
  | contains
  | within
  | disjoint
  deriving DecidableEq

/-- The written relation. -/
def ShapeRelation.symbol : ShapeRelation → String
  | .intersects => "intersects"
  | .contains => "contains"
  | .within => "within"
  | .disjoint => "disjoint"

/-- A shape to which indexed shapes are related: a geometry without its box, or the corners of a rectangle. -/
inductive Region where
  | geometry (g : Geometry)
  | envelope (west south east north : Number)

/-- The decoded form of a region; a rectangle is given by its upper left and its lower right corner. -/
def Region.toDatum : Region → Datum
  | .geometry g => g.toGeoJson false
  | .envelope west south east north =>
    .object
      [("type", .str "envelope"),
        ("coordinates", .list [.list [.num west, .num north], .list [.num east, .num south]])]

end Query

/-! ## Queries -/

/-- A query of a search index. -/
inductive Query where
  /-- All clauses hold. -/
  | must (clauses : List Query)
  /-- Some clause holds. -/
  | should (clauses : List Query)
  /-- The clause does not hold. -/
  | mustNot (clause : Query)
  /-- No clause of a list holds. -/
  | mustNotAny (clauses : List Query)
  /-- The field has the value. -/
  | term (field : String) (value : Query.Operand)
  /-- The field has one of the values. -/
  | terms (field : String) (values : List Query.Operand)
  /-- The field has a value within the bounds. -/
  | range (field : String) (bounds : Query.Bounds)
  /-- The field has a value. -/
  | exists (field : String)
  /-- The field has a value that matches the pattern, in any case of letters. -/
  | wildcard (field : String) (pattern : String)
  /-- The field's shape stands in the relation to the region. -/
  | geoShape (field : String) (region : Query.Region) (relation : Query.ShapeRelation)

namespace Query

/-- An object with one member. -/
def single (name : String) (value : Datum) : Datum :=
  .object [(name, value)]

mutual

/-- The decoded form of a query. -/
def toDatum : Query → Datum
  | .must clauses => single "bool" (single "must" (.list (toDatums clauses)))
  | .should clauses => single "bool" (single "should" (.list (toDatums clauses)))
  | .mustNot clause => single "bool" (single "must_not" (toDatum clause))
  | .mustNotAny clauses => single "bool" (single "must_not" (.list (toDatums clauses)))
  | .term field value => single "term" (single field value.toDatum)
  | .terms field values => single "terms" (single field (.list (Operand.toDatums values)))
  | .range field bounds => single "range" (single field bounds.toDatum)
  | .exists field => single "exists" (single "field" (.str field))
  | .wildcard field pattern =>
    single "wildcard" (single field (.object [("value", .str pattern), ("case_insensitive", .bool true)]))
  | .geoShape field region relation =>
    single "geo_shape"
      (single field (.object [("shape", region.toDatum), ("relation", .str relation.symbol)]))

/-- The decoded forms of some queries. -/
def toDatums : List Query → List Datum
  | [] => []
  | q :: rest => toDatum q :: toDatums rest

end

end Query

/-! ## Queries of predicates -/

/-- Index fields by property name; a name that is not listed is its own field. -/
abbrev FieldMap := List (String × String)

/-- The index field of a property. -/
def FieldMap.field (fields : FieldMap) (p : Property) : String :=
  (fields.lookup p.name).getD p.name

namespace Node

mutual

/-- The value that a node has in a clause. -/
def toOperand : Node → Except Error Query.Operand
  | .literal value => .ok (.scalar value)
  | .timestamp t => .ok (.timestamp t)
  | .date d => .ok (.date d)
  | .array elements => (toOperands elements).map .list
  | n => .error (Dialect.search.refuse n)

/-- The values that some nodes have in clauses. -/
def toOperands : List Node → Except Error (List Query.Operand)
  | [] => .ok []
  | n :: rest => do
    let v ← toOperand n
    let vs ← toOperands rest
    .ok (v :: vs)

end

/-- The clause of equality. Timestamps are compared as instants, not as texts. -/
def equalClause (field : String) : Query.Operand → Query
  | .timestamp t => .range field (.exactly (.timestamp t))
  | v => .term field v

/-- The clause of a comparison. -/
def comparisonClause (op : ComparisonOp) (field : String) (v : Query.Operand) : Query :=
  match op with
  | .eq => equalClause field v
  | .neq => .mustNotAny [equalClause field v]
  | .lt => .range field ⟨none, none, none, some v⟩
  | .lte => .range field ⟨none, none, some v, none⟩
  | .gt => .range field ⟨some v, none, none, none⟩
  | .gte => .range field ⟨none, some v, none, none⟩

/-- The relation of indexed shapes for a spatial operator. -/
def shapeRelation? : SpatialOp → Option Query.ShapeRelation
  | .intersects => some .intersects
  | .contains => some .contains
  | .within => some .within
  | .disjoint => some .disjoint
  | _ => none

/-- The region of a shape; heights of a box are left out. -/
def region? : Shape → Option Query.Region
  | .geometry g => some (.geometry g)
  | .bbox [west, south, east, north] => some (.envelope west south east north)
  | .bbox [west, south, _, east, north, _] => some (.envelope west south east north)
  | .bbox _ => none

/-- The bounds of a relation to an interval, whose open ends do not bound. -/
def intervalBounds? (op : TemporalOp) (start stop : Option Query.Operand) : Option Query.Bounds :=
  match op with
  | .intersects => some ⟨none, start, stop, none⟩
  | .during => some ⟨start, none, none, stop⟩
  | .after => some ⟨stop, none, none, none⟩
  | .before => some ⟨none, none, none, start⟩
  | _ => none

/-- The bounds of a relation to a single time. -/
def timeBounds? (op : TemporalOp) (v : Query.Operand) : Option Query.Bounds :=
  match op with
  | .equals => some (.exactly v)
  | .intersects => some (.exactly v)
  | .after => some ⟨some v, none, none, none⟩
  | .before => some ⟨none, none, none, some v⟩
  | _ => none

/-- The bounds of a temporal relation. -/
def instantBounds? (op : TemporalOp) : Instant → Option Query.Bounds
  | .interval start stop => intervalBounds? op (start.map .timestamp) (stop.map .timestamp)
  | .timestamp t => timeBounds? op (.timestamp t)
  | .date d => timeBounds? op (.date d)

/-- The clause of a range; without bounds it asks for any value. -/
def boundsClause (field : String) (b : Query.Bounds) : Query :=
  if b.named.isEmpty then .exists field else .range field b

/-- The clause of an array relation, if there is one. -/
def arrayClause? (op : ArrayOp) (field : String) (values : List Query.Operand) : Option Query :=
  match op with
  | .overlaps => some (.terms field values)
  | .contains => some (.must (values.map (.term field)))
  | _ => none

/-! ## Queries of trees -/

mutual

/-- The query of a tree. -/
def toQuery (fields : FieldMap) : Node → Except Error Query
  | .and children => (toQueries fields children).map .must
  | .or children => (toQueries fields children).map .should
  | .not child => (toQuery fields child).map .mustNot
  | .comparison op left right => (toOperand right).map (comparisonClause op (fields.field left))
  | .between subject lower upper => do
    let lower ← toOperand lower
    let upper ← toOperand upper
    .ok (.range (fields.field subject) (.between lower upper))
  | .like subject pattern => do
    let pattern ← liftParse (Pattern.toWildcard pattern)
    .ok (.wildcard (fields.field subject) pattern)
  | .isIn subject values => (toOperands values).map (.terms (fields.field subject))
  | .isNull subject => .ok (.mustNot (.exists (fields.field subject)))
  | .spatial op left right =>
    match shapeRelation? op, region? right with
    | some relation, some region => .ok (.geoShape (fields.field left) region relation)
    | _, _ => .error (Dialect.search.refuse (.spatial op left right))
  | .temporal op left right =>
    match instantBounds? op right with
    | some bounds => .ok (boundsClause (fields.field left) bounds)
    | none => .error (Dialect.search.refuse (.temporal op left right))
  | .arrayComparison op left right =>
    match left with
    | .property p => do
      let v ← toOperand right
      match v with
      | .list values =>
        match arrayClause? op (fields.field p) values with
        | some q => .ok q
        | none => .error (Dialect.search.refuse (.arrayComparison op left right))
      | _ => .error (Dialect.search.refuse right)
    | left => .error (Dialect.search.refuse left)
  | n => .error (Dialect.search.refuse n)

/-- The queries of some trees. -/
def toQueries (fields : FieldMap) : List Node → Except Error (List Query)
  | [] => .ok []
  | n :: rest => do
    let q ← toQuery fields n
    let qs ← toQueries fields rest
    .ok (q :: qs)

end

end Node

/-! ## Small facts -/

theorem FieldMap.field_nil (p : Property) : FieldMap.field [] p = p.name := rfl

theorem Node.toQueries_eq_mapM (fields : FieldMap) (ns : List Node) :
    Node.toQueries fields ns = ns.mapM (Node.toQuery fields) := by
  induction ns with
  | nil => rfl
  | cons n rest ih =>
    rw [Node.toQueries, ih, List.mapM_cons]
    rfl

end CatalogFilter
