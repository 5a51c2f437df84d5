import CatalogFilter.Dialect.QueryAssembly
import CatalogFilter.Proofs.Dialect.Pattern
import CatalogFilter.Proofs.Ending
import CatalogFilter.Proofs.Node.Each

/-!
# Trees that have a query

* `Node.IsValue`, `Node.IsSearchable` — the operands that have a value in clauses, and the trees that have a query.
* `Node.SearchFault` — the two ways in which a tree can be without one: a node is refused, or a pattern is none.
* `Query.assemble_eq` — of a tree that keeps the rules no step stops but by an error, and the query is the same.
* `Node.decides_toQuery` — a tree has a query just if it is searchable, and fails in one of the two ways if not.
* `Query.assemble_decides` — both together.

The rules of trees are what the steps rely on: a box has four or six numbers, and what stands beside an array relation and has
a value is a list. Without them the assembly could stop where the translation refuses.
-/

namespace CatalogFilter

open Outcome

/-! ## Searchable trees -/

namespace Node

/-- Whether a node has a value in clauses: it is a scalar, a time, a date, or a list of nodes that have values. -/
inductive IsValue : Node → Prop
  | literal (value : Scalar) : IsValue (.literal value)
  | timestamp (t : OffsetDateTime) : IsValue (.timestamp t)
  | date (d : Date) : IsValue (.date d)
  | array {elements : List Node} (each : ∀ e ∈ elements, IsValue e) : IsValue (.array elements)

/-- Whether a tree has a query. Apart from the operators that a search index knows, what matters is that operands have values
and that patterns are valid. -/
inductive IsSearchable : Node → Prop
  | and {children : List Node} (each : ∀ c ∈ children, IsSearchable c) : IsSearchable (.and children)
  | or {children : List Node} (each : ∀ c ∈ children, IsSearchable c) : IsSearchable (.or children)
  | not {child : Node} (h : IsSearchable child) : IsSearchable (.not child)
  | comparison (op : ComparisonOp) (left : Property) {right : Node} (value : IsValue right) :
      IsSearchable (.comparison op left right)
  | between (subject : Property) {lower upper : Node} (low : IsValue lower) (high : IsValue upper) :
      IsSearchable (.between subject lower upper)
  | like (subject : Property) {pattern : String} (items : List Pattern.Item)
      (valid : pattern.toList = Pattern.spell items) : IsSearchable (.like subject pattern)
  | isIn (subject : Property) {values : List Node} (each : ∀ v ∈ values, IsValue v) : IsSearchable (.isIn subject values)
  | isNull (subject : Property) : IsSearchable (.isNull subject)
  | spatial {op : SpatialOp} (left : Property) (right : Shape)
      (known : op ∈ [.intersects, .contains, .within, .disjoint]) : IsSearchable (.spatial op left right)
  | interval {op : TemporalOp} (left : Property) (start stop : Option OffsetDateTime)
      (known : op ∈ [.intersects, .during, .after, .before]) : IsSearchable (.temporal op left (.interval start stop))
  | timestamp {op : TemporalOp} (left : Property) (t : OffsetDateTime)
      (known : op ∈ [.equals, .intersects, .after, .before]) : IsSearchable (.temporal op left (.timestamp t))
  | date {op : TemporalOp} (left : Property) (d : Date)
      (known : op ∈ [.equals, .intersects, .after, .before]) : IsSearchable (.temporal op left (.date d))
  | arrayComparison {op : ArrayOp} (left : Property) {elements : List Node} (known : op ∈ [.overlaps, .contains])
      (each : ∀ e ∈ elements, IsValue e) : IsSearchable (.arrayComparison op (.property left) (.array elements))

/-- How a tree can be without a query: a node of it is refused, or the pattern of a node has a wrong escape. -/
inductive SearchFault (n : Node) : Error → Prop
  | refused {m : Node} (here : m ∈ n.preorder) : SearchFault n (.unsupportedNode m.variant "elasticsearch")
  | escape {subject : Property} {pattern : String} (here : .like subject pattern ∈ n.preorder)
      (invalid : ¬ ∃ items, pattern.toList = Pattern.spell items) (fault : ShapeFault)
      (which : fault = .openEscape ∨ ∃ c, fault = .badEscape c) : SearchFault n (.parse (.shape "like" fault))

/-- A fault of an operand is one of the tree. -/
theorem SearchFault.of_child {n c : Node} (child : c ∈ n.children) {e : Error} (h : c.SearchFault e) : n.SearchFault e := by
  cases h with
  | refused here => exact .refused (mem_preorder_of_child child here)
  | escape here invalid fault which => exact .escape (mem_preorder_of_child child here) invalid fault which

end Node

/-! ## No other stops -/

namespace Query

variable {fields : FieldMap}

theorem liftStop_bind {α β : Type} (x : Except Error α) (f : α → Except Error β) :
    liftStop (x >>= f) = liftStop x >>= fun a => liftStop (f a) := by
  cases x <;> rfl

theorem liftStop_map {α β : Type} (x : Except Error α) (g : α → β) :
    liftStop (x.map g) = liftStop x >>= fun a => .ok (g a) := by
  cases x <;> rfl

/-- Every order is in the table, so a comparison stops for its operand only. -/
theorem assembleComparison_eq (op : ComparisonOp) (left : Property) (right : Node) :
    assembleComparison fields op (.property left) right = liftStop ((Node.comparison op left right).toQuery fields) := by
  rw [Node.toQuery]
  cases right with
  | literal value | timestamp t | date d => cases op <;> rfl
  | array elements =>
    rw [assembleComparison, Node.toOperand]
    cases Node.toOperands elements with
    | ok values => cases op <;> rfl
    | error e => rfl
  | _ => rfl

theorem assembleBetween_eq (subject : Property) (lower upper : Node) :
    assembleBetween fields (.property subject) lower upper =
      liftStop ((Node.between subject lower upper).toQuery fields) := by
  rw [assembleBetween, Node.toQuery]
  cases lower.toOperand with
  | ok low => cases upper.toOperand <;> rfl
  | error e => rfl

/-- Of a box of four or six numbers there is a rectangle. -/
theorem exists_envelope {extent : List Number} (h : extent.length = 4 ∨ extent.length = 6) :
    ∃ region, Node.region? (.bbox extent) = some region ∧ unpackEnvelope (flatten extent) = .ok region := by
  match extent, h with
  | [west, south, east, north], _ => exact ⟨_, rfl, rfl⟩
  | [west, south, _, east, north, _], _ => exact ⟨_, rfl, rfl⟩

/-- A shape that keeps the rules has a region. -/
theorem exists_region {right : Shape} (h : right.Valid) :
    ∃ region, Node.region? right = some region ∧ regionOf right.toNode = .ok region := by
  cases right with
  | geometry g => exact ⟨_, rfl, rfl⟩
  | bbox extent => exact exists_envelope h

theorem assembleSpatial_eq (op : SpatialOp) (left : Property) {right : Shape} (h : right.Valid) :
    assembleSpatial fields (.spatial op left right) op (.property left) right.toNode =
      liftStop ((Node.spatial op left right).toQuery fields) := by
  obtain ⟨region, found, unpacked⟩ := exists_region h
  rw [assembleSpatial, Node.toQuery, found]
  cases Node.shapeRelation? op with
  | none => rfl
  | some relation =>
    dsimp only
    rw [unpacked]
    rfl

theorem assembleTemporal_eq (op : TemporalOp) (left : Property) (right : Instant) :
    assembleTemporal fields (.temporal op left right) op (.property left) right.toNode =
      liftStop ((Node.temporal op left right).toQuery fields) := by
  cases right with
  | interval start stop | timestamp t | date d => cases op <;> rfl

/-- What may stand beside an array relation and has a value is a list. -/
theorem assembleArray_eq (op : ArrayOp) (left : Node) {right : Node} (side : right.isArraySide = true) :
    assembleArray fields (.arrayComparison op left right) op left right =
      liftStop ((Node.arrayComparison op left right).toQuery fields) := by
  cases left with
  | property p =>
    cases right with
    | array elements =>
      rw [assembleArray, Node.toQuery, Node.toOperand]
      cases Node.toOperands elements with
      | ok values => cases op <;> rfl
      | error e => rfl
    | property q | function name args => rfl
    | _ => cases side
  | _ => rfl

mutual

/-- Of a tree that keeps the rules the assembly makes the same query, and stops by the same error if there is none. -/
theorem assemble_eq (n : Node) (h : n.WellFormed) : assemble fields n = liftStop (n.toQuery fields) := by
  cases n with
  | and children | or children =>
    rw [assemble, Node.toQuery, liftStop_map, assembleAll_eq children h.1]
  | not child => rw [assemble, Node.toQuery, liftStop_map, assemble_eq child h.1]
  | comparison op left right => exact assembleComparison_eq op left right
  | between subject lower upper => exact assembleBetween_eq subject lower upper
  | like subject pattern =>
    rw [assemble, Node.toQuery, liftStop_bind]
    rfl
  | isIn subject values =>
    rw [assemble, Node.toQuery, liftStop_map]
    rfl
  | isNull subject => rfl
  | spatial op left right => exact assembleSpatial_eq op left h.2
  | temporal op left right => exact assembleTemporal_eq op left right
  | arrayComparison op left right => exact assembleArray_eq op left h.2.2.2
  | _ => rfl

theorem assembleAll_eq (ns : List Node) (h : Node.AllWellFormed ns) :
    assembleAll fields ns = liftStop (Node.toQueries fields ns) := by
  cases ns with
  | nil => rfl
  | cons n rest =>
    rw [assembleAll, Node.toQueries, liftStop_bind, assemble_eq n h.1, assembleAll_eq rest h.2]
    refine bind_congr fun q => ?_
    rw [liftStop_bind]
    rfl

end

end Query

/-! ## Successes and failures -/

namespace Node

variable {fields : FieldMap}

theorem toOperands_eq_mapM (ns : List Node) : toOperands ns = ns.mapM toOperand := by
  induction ns with
  | nil => rfl
  | cons n rest ih =>
    rw [toOperands, ih, List.mapM_cons]
    rfl

/-- Just the nodes that have values have operands, and others are refused. -/
theorem decides_toOperand (n : Node) : Decides n.toOperand n.IsValue n.SearchFault := by
  induction n using byChildren with
  | step n ih =>
    cases n with
    | literal value => exact .ok _ (.literal value)
    | timestamp t => exact .ok _ (.timestamp t)
    | date d => exact .ok _ (.date d)
    | array elements =>
      rw [toOperand, toOperands_eq_mapM]
      have each : ∀ c ∈ elements, Decides c.toOperand c.IsValue (Node.array elements).SearchFault :=
        fun c child => (ih c child).imp fun _ => .of_child child
      refine (Decides.mapM each).map.congr ⟨.array, fun value => ?_⟩
      cases value with
      | array each => exact each
    | _ => exact .error nofun (.refused (mem_preorder_self _))

/-- So it is for some operands of a node together. -/
theorem decides_toOperands {n : Node} {values : List Node} (among : ∀ v ∈ values, v ∈ n.children) :
    Decides (toOperands values) (∀ v ∈ values, v.IsValue) n.SearchFault := by
  rw [toOperands_eq_mapM]
  exact .mapM fun v member => (decides_toOperand v).imp fun _ => .of_child (among v member)

/-- Just the valid patterns are converted, and others fail for a wrong escape. -/
theorem decides_toWildcard (subject : Property) (pattern : String) :
    Decides (liftParse (Pattern.toWildcard pattern)) (∃ items, pattern.toList = Pattern.spell items)
      (Node.like subject pattern).SearchFault := by
  rw [Pattern.toWildcard]
  cases outcome : Pattern.wildcards pattern.toList with
  | ok ws =>
    obtain ⟨items, valid, -⟩ := Pattern.wildcards_eq_ok_iff.1 outcome
    exact .ok _ ⟨items, valid⟩
  | error fault =>
    have invalid : ¬ ∃ items, pattern.toList = Pattern.spell items := by
      rintro ⟨items, valid⟩
      rw [valid, Pattern.wildcards_spell] at outcome
      cases outcome
    exact .error invalid (.escape (mem_preorder_self _) invalid fault (Pattern.wildcards_fault outcome))

/-- Just some relations of shapes are known to an index. -/
theorem shapeRelation?_isSome_iff {op : SpatialOp} :
    (shapeRelation? op).isSome ↔ op ∈ [.intersects, .contains, .within, .disjoint] := by
  cases op <;> simp [shapeRelation?]

theorem decides_spatial (op : SpatialOp) (left : Property) {right : Shape} (h : right.Valid) :
    Decides ((Node.spatial op left right).toQuery fields) (Node.spatial op left right).IsSearchable
      (Node.spatial op left right).SearchFault := by
  obtain ⟨region, found, -⟩ := Query.exists_region h
  have same : (shapeRelation? op).isSome ↔ (Node.spatial op left right).IsSearchable := by
    refine shapeRelation?_isSome_iff.trans ⟨.spatial left right, fun searchable => ?_⟩
    cases searchable with
    | spatial left right known => exact known
  rw [← same, toQuery, found]
  cases shapeRelation? op with
  | some relation => exact .ok _ rfl
  | none => exact .error nofun (.refused (mem_preorder_self _))

/-- Just some relations have bounds, other ones to an interval than to a time. -/
theorem intervalBounds?_isSome_iff {op : TemporalOp} {start stop : Option Query.Operand} :
    (intervalBounds? op start stop).isSome ↔ op ∈ [.intersects, .during, .after, .before] := by
  cases op <;> simp [intervalBounds?]

theorem timeBounds?_isSome_iff {op : TemporalOp} {v : Query.Operand} :
    (timeBounds? op v).isSome ↔ op ∈ [.equals, .intersects, .after, .before] := by
  cases op <;> simp [timeBounds?]

theorem instantBounds?_isSome_iff {op : TemporalOp} {left : Property} {right : Instant} :
    (instantBounds? op right).isSome ↔ (Node.temporal op left right).IsSearchable := by
  cases right with
  | interval start stop =>
    refine intervalBounds?_isSome_iff.trans ⟨.interval left start stop, fun searchable => ?_⟩
    cases searchable with
    | interval left start stop known => exact known
  | timestamp t =>
    refine timeBounds?_isSome_iff.trans ⟨.timestamp left t, fun searchable => ?_⟩
    cases searchable with
    | timestamp left t known => exact known
  | date d =>
    refine timeBounds?_isSome_iff.trans ⟨.date left d, fun searchable => ?_⟩
    cases searchable with
    | date left d known => exact known

theorem decides_temporal (op : TemporalOp) (left : Property) (right : Instant) :
    Decides ((Node.temporal op left right).toQuery fields) (Node.temporal op left right).IsSearchable
      (Node.temporal op left right).SearchFault := by
  rw [← instantBounds?_isSome_iff, toQuery]
  cases instantBounds? op right with
  | some bounds => exact .ok _ rfl
  | none => exact .error nofun (.refused (mem_preorder_self _))

/-- An array relation has a query just if it is between a property and a list, the list has a value, and the relation has a
clause. -/
theorem decides_arrayComparison (op : ArrayOp) (left right : Node) :
    Decides ((Node.arrayComparison op left right).toQuery fields) (Node.arrayComparison op left right).IsSearchable
      (Node.arrayComparison op left right).SearchFault := by
  have first : left ∈ (Node.arrayComparison op left right).children := List.mem_cons_self
  have second : right ∈ (Node.arrayComparison op left right).children := List.mem_cons_of_mem _ List.mem_cons_self
  cases left with
  | property p =>
    cases right with
    | array elements =>
      have values : Decides (toOperands elements) (∀ e ∈ elements, e.IsValue)
          (Node.arrayComparison op (.property p) (.array elements)).SearchFault :=
        (decides_toOperands (n := .array elements) fun _ => id).imp fun _ => .of_child second
      rw [toQuery, toOperand]
      cases outcome : toOperands elements with
      | error e =>
        rw [outcome] at values
        refine .error (fun searchable => values.1 ?_) values.2
        cases searchable with
        | arrayComparison left known each => exact each
      | ok vs =>
        rw [outcome] at values
        cases op with
        | overlaps | contains => exact .ok _ (.arrayComparison p (by simp) values)
        | equals | containedBy =>
          refine .error (fun searchable => ?_) (.refused (mem_preorder_self _))
          cases searchable with
          | arrayComparison left known each => simp at known
    | _ => exact .error nofun (.of_child second (.refused (mem_preorder_self _)))
  | _ => exact .error nofun (.of_child first (.refused (mem_preorder_self _)))

/-- The trees of a list have queries together just if each of them is searchable. -/
theorem decides_toQueries {n : Node} (each : ∀ c ∈ n.children, Decides (c.toQuery fields) c.IsSearchable c.SearchFault) :
    Decides (toQueries fields n.children) (∀ c ∈ n.children, c.IsSearchable) n.SearchFault := by
  rw [toQueries_eq_mapM]
  exact .mapM fun c child => (each c child).imp fun _ => .of_child child

/-- A tree that keeps the rules has a query just if it is searchable, and otherwise fails in one of the two ways. -/
theorem decides_toQuery (n : Node) (h : n.WellFormed) : Decides (n.toQuery fields) n.IsSearchable n.SearchFault := by
  induction n using byChildren with
  | step n ih =>
    have operand {c : Node} (child : c ∈ n.children) : Decides c.toOperand c.IsValue n.SearchFault :=
      (decides_toOperand c).imp fun _ => .of_child child
    cases n with
    | and children =>
      have all := decides_toQueries fun c child => ih c child ((allWellFormed_iff children).1 h.1 c child)
      refine (all.map (g := Query.must)).congr ⟨.and, fun searchable => ?_⟩
      cases searchable with
      | and each => exact each
    | or children =>
      have all := decides_toQueries fun c child => ih c child ((allWellFormed_iff children).1 h.1 c child)
      refine (all.map (g := Query.should)).congr ⟨.or, fun searchable => ?_⟩
      cases searchable with
      | or each => exact each
    | not child =>
      have below : child ∈ (Node.not child).children := List.mem_cons_self
      have only := (ih child below h.1).imp fun _ => SearchFault.of_child below
      refine (only.map (g := Query.mustNot)).congr ⟨.not, fun searchable => ?_⟩
      cases searchable with
      | not inside => exact inside
    | comparison op left right =>
      have value := operand (c := right) (List.mem_cons_of_mem _ List.mem_cons_self)
      refine value.map.congr ⟨.comparison op left, fun searchable => ?_⟩
      cases searchable with
      | comparison op left value => exact value
    | between subject lower upper =>
      have low := operand (c := lower) (by simp [children])
      have high := operand (c := upper) (by simp [children])
      have values := low.bind fun v => high.map (g := fun w => Query.range (fields.field subject) (.between v w))
      refine values.congr ⟨fun both => .between subject both.1 both.2, fun searchable => ?_⟩
      cases searchable with
      | between subject low high => exact ⟨low, high⟩
    | like subject pattern =>
      have valid : Decides ((Node.like subject pattern).toQuery fields) (∃ items, pattern.toList = Pattern.spell items)
          (Node.like subject pattern).SearchFault := (decides_toWildcard subject pattern).map
      refine valid.congr ⟨?_, fun searchable => ?_⟩
      · rintro ⟨items, spelled⟩
        exact .like subject items spelled
      · cases searchable with
        | like subject items valid => exact ⟨items, valid⟩
    | isIn subject values =>
      have each := decides_toOperands (n := .isIn subject values) fun v => List.mem_cons_of_mem _
      refine each.map.congr ⟨.isIn subject, fun searchable => ?_⟩
      cases searchable with
      | isIn subject each => exact each
    | isNull subject => exact .ok _ (.isNull subject)
    | spatial op left right => exact decides_spatial op left h.2
    | temporal op left right => exact decides_temporal op left right
    | arrayComparison op left right => exact decides_arrayComparison op left right
    | _ => exact .error (fun searchable => by cases searchable) (.refused (mem_preorder_self _))

end Node

namespace Query

/-- Which trees have a query, and how the others fail. Of a tree that keeps the rules the assembly ends as the translation
does, so no order is missing in the table, no box has another number of corners than four or six, and no side of a predicate
is of a kind that it cannot be. The translation succeeds just for the searchable trees, and otherwise refuses a node or fails
for a wrong escape in a pattern of the tree. -/
theorem assemble_decides (fields : FieldMap) (n : Node) (h : n.WellFormed) :
    assemble fields n = (n.toQuery fields).mapError .error ∧
      ((∃ q, n.toQuery fields = .ok q) ↔ n.IsSearchable) ∧ ∀ e, n.toQuery fields = .error e → n.SearchFault e :=
  ⟨assemble_eq n h, (n.decides_toQuery h).exists_ok_iff, fun _ => (n.decides_toQuery h).of_error⟩

/-- A filter on a box with heights, on an interval without ends, and on a list in a list. -/
def boxFilter : Node :=
  .and
    [.spatial .within ⟨"geometry"⟩ (.bbox [.int 5, .int 40, .int 0, .int 11, .int 49, .int 900]),
      .temporal .intersects ⟨"datetime"⟩ (.interval none none),
      .arrayComparison .contains (.property ⟨"bands"⟩) (.array [.literal (.str "nir"), .array []])]

/-- The same or what does not match a pattern that ends with an escape. -/
def escapeFilter : Node :=
  .or [boxFilter, .not (.like ⟨"title"⟩ "100\\")]

/-- The first filter is searchable, and the second is not for its pattern. -/
theorem assemble_decides_boxFilter :
    boxFilter.WellFormed ∧ escapeFilter.WellFormed ∧ boxFilter.IsSearchable ∧ ¬ escapeFilter.IsSearchable ∧
      assemble [] escapeFilter = .error (.error (.parse (.shape "like" .openEscape))) ∧
      escapeFilter.SearchFault (.parse (.shape "like" .openEscape)) := by
  have box : boxFilter.WellFormed := by
    simp [boxFilter, Node.WellFormed, Node.AllWellFormed, Node.isExpression, Node.isArraySide, Shape.Valid]
  have escape : escapeFilter.WellFormed := by
    refine ⟨⟨box, ⟨?_, rfl⟩, trivial⟩, by simp [boxFilter, Node.isExpression]⟩
    simp [Node.WellFormed]
  have failed : escapeFilter.toQuery [] = .error (.parse (.shape "like" .openEscape)) := rfl
  obtain ⟨-, searchable, -⟩ := assemble_decides [] boxFilter box
  obtain ⟨same, refused, fault⟩ := assemble_decides [] escapeFilter escape
  refine ⟨box, escape, searchable.1 ⟨_, rfl⟩, fun h => ?_, ?_, fault _ failed⟩
  · obtain ⟨q, translated⟩ := refused.2 h
    cases failed.symm.trans translated
  · rw [same, failed]
    rfl

end Query

end CatalogFilter
