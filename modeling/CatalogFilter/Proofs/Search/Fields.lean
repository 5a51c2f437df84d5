import CatalogFilter.Dialect.Search
import CatalogFilter.Proofs.Outcome
import CatalogFilter.Proofs.Queryables.Undefined

/-!
# Index fields that queries reach

* `Query.fields` — the index fields that a query names, at any depth.
* `Node.reachesOwn` — the query of a tree names only fields of the tree's own properties.
* `Queryables.declared_of_mem_fields` — of a filter that passed its check, these properties are declared.

The check finds properties by walking over all operands of a tree, and the query names fields where a clause is made. That
no clause is made of a property that the walk does not visit is what ties the two together.
-/

namespace CatalogFilter

namespace Query

mutual

/-- The index fields that a query names, clause by clause. -/
def fields : Query → List String
  | .must clauses => allFields clauses
  | .should clauses => allFields clauses
  | .mustNot clause => fields clause
  | .mustNotAny clauses => allFields clauses
  | .term field _ => [field]
  | .terms field _ => [field]
  | .range field _ => [field]
  | .exists field => [field]
  | .wildcard field _ => [field]
  | .geoShape field _ _ => [field]

/-- `fields` of each query. -/
def allFields : List Query → List String
  | [] => []
  | q :: rest => fields q ++ allFields rest

end

theorem allFields_eq_flatMap (qs : List Query) : allFields qs = qs.flatMap fields := by
  induction qs with
  | nil => rfl
  | cons q rest ih => rw [allFields, ih, List.flatMap_cons]

end Query

namespace Node

open Query

/-! ## Fields of clauses -/

/-- Whether a query names the field of a property only. -/
def NamesOnly (field : String) (q : Query) : Prop :=
  ∀ f ∈ q.fields, f = field

theorem namesOnly_equalClause (field : String) (v : Query.Operand) : NamesOnly field (equalClause field v) := by
  cases v <;> simp [NamesOnly, equalClause, fields]

theorem namesOnly_comparisonClause (op : ComparisonOp) (field : String) (v : Query.Operand) :
    NamesOnly field (comparisonClause op field v) := by
  have equal := namesOnly_equalClause field v
  cases op with
  | eq => exact equal
  | neq =>
    intro f member
    apply equal
    simpa [comparisonClause, fields, allFields] using member
  | _ => simp [NamesOnly, comparisonClause, fields]

theorem namesOnly_boundsClause (field : String) (b : Query.Bounds) : NamesOnly field (boundsClause field b) := by
  unfold boundsClause
  split <;> simp [NamesOnly, fields]

theorem namesOnly_arrayClause {op : ArrayOp} {field : String} {values : List Query.Operand} {q : Query}
    (found : arrayClause? op field values = some q) : NamesOnly field q := by
  cases op with
  | overlaps =>
    cases found
    simp [NamesOnly, fields]
  | contains =>
    cases found
    simp only [NamesOnly, fields, allFields_eq_flatMap, List.flatMap_map, List.mem_flatMap]
    rintro f ⟨v, -, member⟩
    exact List.mem_singleton.1 member
  | equals => cases found
  | containedBy => cases found

/-! ## Fields of trees -/

section

variable (m : FieldMap)

/-- Whether the query of a tree names only the fields of the tree's own properties. -/
def ReachesOwn (n : Node) : Prop :=
  ∀ q, n.toQuery m = .ok q → ∀ f ∈ q.fields, ∃ p, .property p ∈ n.preorder ∧ f = m.field p

variable {m}

/-- What names the field of one of a tree's operands names only fields of the tree's properties. -/
theorem NamesOnly.reaches {n : Node} {p : Property} {q : Query} (names : NamesOnly (m.field p) q)
    (child : .property p ∈ n.children) : ∀ f ∈ q.fields, ∃ p, .property p ∈ n.preorder ∧ f = m.field p :=
  fun f member => ⟨p, mem_preorder_of_child child (mem_preorder_self _), names f member⟩

/-- The queries of a tree's operands together name only fields of the tree's properties if each of them does so alone. -/
theorem reaches_of_children {n : Node} {qs : List Query} (each : ∀ c ∈ n.children, ReachesOwn m c)
    (translated : toQueries m n.children = .ok qs) :
    ∀ f ∈ allFields qs, ∃ p, .property p ∈ n.preorder ∧ f = m.field p := by
  intro f member
  rw [toQueries_eq_mapM, Outcome.mapM_eq_ok] at translated
  rw [allFields_eq_flatMap, List.mem_flatMap] at member
  obtain ⟨q, among, member⟩ := member
  obtain ⟨c, child, own⟩ := Outcome.exists_of_mem_right translated q among
  obtain ⟨p, inside, named⟩ := each c child q own f member
  exact ⟨p, mem_preorder_of_child child inside, named⟩

/-- One step down: a connective names the fields that its operands name, and every predicate that has a query names the
field of a property that is an operand of it. -/
theorem reachesOwn_step (n : Node) (each : ∀ c ∈ n.children, ReachesOwn m c) : ReachesOwn m n := by
  intro q translated
  cases n with
  | and children | or children =>
    obtain ⟨qs, parts, rfl⟩ := Outcome.map_eq_ok.1 translated
    exact reaches_of_children each parts
  | not child =>
    obtain ⟨q, part, rfl⟩ := Outcome.map_eq_ok.1 translated
    have parts : toQueries m [child] = .ok [q] := by
      rw [toQueries, part]
      rfl
    have reaches := reaches_of_children each parts
    simpa [fields, allFields] using reaches
  | comparison op left right =>
    obtain ⟨v, -, rfl⟩ := Outcome.map_eq_ok.1 translated
    exact (namesOnly_comparisonClause op _ v).reaches List.mem_cons_self
  | between subject lower upper =>
    obtain ⟨low, -, rest⟩ := Outcome.bind_eq_ok.1 translated
    obtain ⟨high, -, rest⟩ := Outcome.bind_eq_ok.1 rest
    cases rest
    exact NamesOnly.reaches (p := subject) (by simp [NamesOnly, fields]) List.mem_cons_self
  | like subject pattern =>
    obtain ⟨wildcard, -, rest⟩ := Outcome.bind_eq_ok.1 translated
    cases rest
    exact NamesOnly.reaches (p := subject) (by simp [NamesOnly, fields]) List.mem_cons_self
  | isIn subject values =>
    obtain ⟨vs, -, rfl⟩ := Outcome.map_eq_ok.1 translated
    exact NamesOnly.reaches (p := subject) (by simp [NamesOnly, fields]) List.mem_cons_self
  | isNull subject =>
    cases translated
    exact NamesOnly.reaches (p := subject) (by simp [NamesOnly, fields]) List.mem_cons_self
  | spatial op left right =>
    rw [toQuery] at translated
    split at translated
    · cases translated
      exact NamesOnly.reaches (p := left) (by simp [NamesOnly, fields]) List.mem_cons_self
    · cases translated
  | temporal op left right =>
    rw [toQuery] at translated
    split at translated
    · cases translated
      exact (namesOnly_boundsClause _ _).reaches List.mem_cons_self
    · cases translated
  | arrayComparison op left right =>
    cases left with
    | property p =>
      obtain ⟨v, -, rest⟩ := Outcome.bind_eq_ok.1 translated
      split at rest
      · split at rest
        · rename_i found
          cases rest
          exact (namesOnly_arrayClause found).reaches List.mem_cons_self
        · cases rest
      · cases rest
    | _ => cases translated
  | _ => cases translated

/-- The query of a tree names only fields of the tree's own properties. -/
theorem reachesOwn (n : Node) : ReachesOwn m n :=
  byChildren reachesOwn_step n

end

end Node

/-! ## Fields of checked filters -/

namespace Queryables

/-- Filters that pass the check reach declared fields only. Where the settings ask for the check and the queryables allow
no properties besides those they declare, every index field that the query of a passed filter names, in clauses at any
depth, is the field of a property of the filter, and the property is declared under its bare name. -/
theorem declared_of_mem_fields {s : Settings} {q : Queryables} {n : Node} {m : FieldMap} {query : Query}
    (asked : s.validateQueryables = true) (closed : q.additional = none ∨ q.additional = some (.allowed false))
    (passed : q.check s n = .ok ()) (translated : n.toQuery m = .ok query) :
    ∀ f ∈ query.fields, ∃ p, .property p ∈ n.preorder ∧ f = m.field p ∧ Node.bareName p.name ∈ q.names := by
  intro f member
  obtain ⟨p, inside, named⟩ := n.reachesOwn query translated f member
  exact ⟨p, inside, named, (check_eq_ok_iff asked (restricts_iff.2 closed)).1 passed p inside⟩

/-- Queryables that declare a cloud cover and the bands, each without a schema, and leave open what else there is. -/
def sceneQueryables : Queryables :=
  let bare : QueryableProperty := ⟨none, none, none, none, none, none, none, none, []⟩
  ⟨none, none, some "object", none, none, some [("cloud", bare), ("bands", bare)], none, []⟩

/-- A filter on both at some depth, one of them under its longer name. -/
def sceneFilter : Node :=
  .or
    [.not (.comparison .neq ⟨"properties.cloud"⟩ (.literal (.num (.int 0)))),
      .and [.arrayComparison .contains (.property ⟨"bands"⟩) (.array [.literal (.str "nir"), .literal (.str "red")])]]

/-- It passes, and its query reaches the index fields of the two properties. -/
theorem declared_of_mem_fields_sceneFilter :
    sceneQueryables.check ⟨"", false, true⟩ sceneFilter = .ok () ∧
      ∃ query, sceneFilter.toQuery [("bands", "assets.bands")] = .ok query ∧
        query.fields = ["properties.cloud", "assets.bands", "assets.bands"] ∧
        ∀ f ∈ query.fields, ∃ p, .property p ∈ sceneFilter.preorder ∧
          f = FieldMap.field [("bands", "assets.bands")] p ∧ Node.bareName p.name ∈ sceneQueryables.names := by
  have passed : sceneQueryables.check ⟨"", false, true⟩ sceneFilter = .ok () := by
    have long : Node.bareName "properties.cloud" = "cloud" := by decide
    have plain : Node.bareName "bands" = "bands" := by decide
    rw [check_eq_ok_iff rfl rfl]
    simp [sceneFilter, Node.preorder, Node.preorders, sceneQueryables, names, long, plain]
  exact ⟨passed, _, rfl, by decide, declared_of_mem_fields rfl (.inl rfl) passed rfl⟩

end Queryables

end CatalogFilter
