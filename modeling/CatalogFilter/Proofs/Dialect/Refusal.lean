import CatalogFilter.Proofs.Dialect.Phrases
import CatalogFilter.Proofs.Dialect.Wkt
import CatalogFilter.Proofs.Ending
import CatalogFilter.Proofs.Node.Each

/-!
# Trees that a dialect refuses

* `Node.outline` — the nodes of a tree, each before its operands, without the operands of spatial relations.
* `odataVariants`, `sqlVariants`, `Node.isForeign` — what the dialects have forms for.
* `Node.hasOwnText` — whether the numbers that a node itself holds have a text.
* `Refuses` — a rendering fails by the first node that has no form or no text, and succeeds if there is none.
* `Node.endsBy_odataPhrase`, `Node.endsBy_sqlPhrase`, `Node.endsBy_textPhrase` — a phrase of a tree fails by the first such
  node in the order of the tree.
* `Node.refuses_first_offender` — so do the renderings in all three dialects.
-/

namespace CatalogFilter

open Outcome

/-! ## Offending nodes -/

namespace Node

/-- The operands of a node, except for those of a spatial relation. -/
def exposed : Node → List Node
  | .spatial _ _ _ => []
  | n => n.children

theorem mem_children_of_mem_exposed {n c : Node} (h : c ∈ n.exposed) : c ∈ n.children := by
  cases n with
  | spatial op left right => cases h
  | _ => exact h

/-- The nodes of a tree, each before its operands, without the operands of spatial relations. -/
def outline (n : Node) : List Node :=
  n :: n.exposed.attach.flatMap fun ⟨c, _⟩ => outline c
termination_by n.weight
decreasing_by exact weight_lt (mem_children_of_mem_exposed ‹_›)

theorem outline_eq (n : Node) : n.outline = n :: n.exposed.flatMap outline := by
  rw [outline, List.flatMap_subtype, List.unattach_attach]
  intro c member
  rfl

/-- Whether the variant of a node is none of some. -/
def isNone (variants : List String) (n : Node) : Bool :=
  !variants.contains n.variant

/-- Whether a geometry is of none of the six types that have a well-known text. -/
def isForeign : Node → Bool
  | .geometry g => (Wkt.form? g.type).isNone
  | _ => false

/-- The name of a node in a refusal by the text form, which gives the type of a geometry. -/
def shapeName : Node → String
  | .geometry g => "Geometry(" ++ g.type ++ ")"
  | n => n.variant

/-- Whether the numbers that a node itself holds have a text. -/
def hasOwnText : Node → Bool
  | .literal value => value.isPrintable
  | .geometry g => g.coordinates.isPrintable
  | .bbox extent => extent.all Number.isPrintable
  | _ => true

end Node

/-- The variants that OData has forms for. -/
def odataVariants : List String :=
  ["Property", "Literal", "Timestamp", "Date", "And", "Or", "Not", "Comparison", "IsNull", "SpatialComparison"]

/-- The variants that SQL has forms for. -/
def sqlVariants : List String :=
  odataVariants ++ ["Between", "Like", "In"]

/-- Whether a rendering succeeds just if every one of some nodes has a form and its numbers have a text, and otherwise fails
by the first node for which that is not so: by its name if it has no form. -/
structure Refuses (rendering : Except Error String) (nodes : List Node) (foreign : Node → Bool) (name : Node → String)
    (dialect : String) : Prop where
  exists_ok_iff : (∃ text, rendering = .ok text) ↔ ∀ n ∈ nodes, foreign n = false ∧ n.hasOwnText = true
  eq_unsupported : ∀ before n after, nodes = before ++ n :: after →
    (∀ m ∈ before, foreign m = false ∧ m.hasOwnText = true) → foreign n = true →
      rendering = .error (.unsupportedNode (name n) dialect)
  eq_tooManyDigits : ∀ before n after, nodes = before ++ n :: after →
    (∀ m ∈ before, foreign m = false ∧ m.hasOwnText = true) → foreign n = false → n.hasOwnText = false →
      rendering = .error .tooManyDigits

namespace Node

/-- The error of a node itself: that it has no form, or else that a number in it has no text. -/
def ownFault (foreign : Node → Bool) (refusal : Node → Error) (n : Node) : List Error :=
  if foreign n then [refusal n] else if n.hasOwnText then [] else [.tooManyDigits]

section

variable {foreign : Node → Bool} {refusal : Node → Error} {n : Node}

theorem ownFault_eq_nil : n.ownFault foreign refusal = [] ↔ foreign n = false ∧ n.hasOwnText = true := by
  unfold ownFault
  cases foreign n <;> cases n.hasOwnText <;> simp

theorem ownFault_of_foreign (h : foreign n = true) : n.ownFault foreign refusal = [refusal n] :=
  if_pos h

theorem ownFault_of_not_hasOwnText (formed : foreign n = false) (h : n.hasOwnText = false) :
    n.ownFault foreign refusal = [.tooManyDigits] := by
  simp [ownFault, formed, h]

end

end Node

/-- A rendering that ends by the errors of some nodes fails by the first node that has one. -/
theorem Refuses.of_endsBy {rendering : Except Error String} {nodes : List Node} {foreign : Node → Bool}
    {name : Node → String} {dialect : String}
    (h : EndsBy rendering (nodes.flatMap (Node.ownFault foreign fun n => .unsupportedNode (name n) dialect))) :
    Refuses rendering nodes foreign name dialect := by
  have first {before after : List Node} {n : Node} {e : Error} (split : nodes = before ++ n :: after)
      (fine : ∀ m ∈ before, foreign m = false ∧ m.hasOwnText = true)
      (own : n.ownFault foreign (fun n => .unsupportedNode (name n) dialect) = [e]) : rendering = .error e := by
    have none : before.flatMap (Node.ownFault foreign fun n => .unsupportedNode (name n) dialect) = [] :=
      List.flatMap_eq_nil_iff.2 fun m member => Node.ownFault_eq_nil.2 (fine m member)
    rw [split, List.flatMap_append, none, List.nil_append, List.flatMap_cons, own] at h
    exact h
  refine ⟨h.exists_ok_iff.trans ?_, fun before n after split fine offends => ?_,
    fun before n after split fine formed long => ?_⟩
  · rw [List.flatMap_eq_nil_iff]
    exact forall₂_congr fun _ _ => Node.ownFault_eq_nil
  · exact first split fine (Node.ownFault_of_foreign offends)
  · exact first split fine (Node.ownFault_of_not_hasOwnText formed long)

/-! ## Phrases without quotes, and conditions -/

namespace Node

/-- Whether the shapes of all spatial relations of a tree can be written as JSON. -/
def EncodesShapes (n : Node) : Prop :=
  ∀ op left right, .spatial op left right ∈ n.preorder → ∃ json, CatalogFilter.shapeJson right = .ok json

theorem EncodesShapes.child {n c : Node} (h : n.EncodesShapes) (child : c ∈ n.children) : c.EncodesShapes :=
  fun op left right member => h op left right (mem_preorder_of_child child member)

/-- The errors that a dialect with forms for some variants has for the nodes of a tree. -/
def refusals (d : Dialect) (variants : List String) (n : Node) : List Error :=
  n.outline.flatMap (ownFault (isNone variants) d.refuse)

section

variable {d : Dialect} {variants : List String} {α : Type}

/-- The errors of a tree are its own and those of its operands. -/
theorem refusals_eq (n : Node) :
    n.refusals d variants = n.ownFault (isNone variants) d.refuse ++ n.exposed.flatMap (refusals d variants) := by
  rw [refusals, outline_eq, List.flatMap_cons, List.flatMap_assoc]
  rfl

/-- A variant with a form is refused for its operands only, unless it holds numbers itself. -/
theorem refusals_of_form {n : Node} (h : variants.contains n.variant = true) (own : n.hasOwnText = true) :
    n.refusals d variants = n.exposed.flatMap (refusals d variants) := by
  have formed : isNone variants n = false := by rw [isNone, h, Bool.not_true]
  rw [refusals_eq, ownFault_eq_nil.2 ⟨formed, own⟩, List.nil_append]

/-- The property that a predicate begins with is no cause to refuse it. -/
theorem refusals_of_subject {n : Node} (p : Property) (rest : List Node) (h : variants.contains n.variant = true)
    (own : n.hasOwnText = true) (known : variants.contains "Property" = true)
    (subject : n.exposed = .property p :: rest) : n.refusals d variants = rest.flatMap (refusals d variants) := by
  have none : (Node.property p).refusals d variants = [] := refusals_of_form known rfl
  rw [refusals_of_form h own, subject, List.flatMap_cons, none, List.nil_append]

/-- A literal is refused for its number. -/
theorem endsBy_literal (value : Scalar) (a : α) (known : variants.contains "Literal" = true) :
    EndsBy (printing value.isPrintable a) ((Node.literal value).refusals d variants) := by
  have formed : isNone variants (.literal value) = false := by
    rw [isNone, variant, known, Bool.not_true]
  rw [refusals_eq, ownFault, formed]
  cases printable : value.isPrintable with
  | false => simp [hasOwnText, printable, printing, EndsBy]
  | true => simp [hasOwnText, printable, printing, EndsBy, exposed, children]

/-- A variant without a form is refused before its operands are looked at. -/
theorem endsBy_refuse {n : Node} (h : variants.contains n.variant = false) :
    EndsBy (.error (d.refuse n) : Except Error α) (n.refusals d variants) := by
  have foreign : isNone variants n = true := by rw [isNone, h, Bool.not_false]
  rw [refusals_eq, ownFault_of_foreign foreign]
  exact .error _ _

end

/-- The phrase of a tree in OData fails by the first node that has no form or no text. -/
theorem endsBy_odataPhrase (n : Node) (h : n.EncodesShapes) :
    EndsBy n.odataPhrase (n.refusals .odata odataVariants) := by
  induction n using byChildren with
  | step n ih =>
    have operand {c : Node} (child : c ∈ n.children) := ih c child (h.child child)
    cases n with
    | property p | timestamp t | date d =>
      rw [refusals_of_form rfl rfl]
      exact .ok _
    | literal value => exact endsBy_literal value _ rfl
    | and children | or children =>
      rw [odataPhrase, odataPhrases_eq_mapM, refusals_of_form rfl rfl]
      exact (EndsBy.mapM fun c => operand).bind_ok
    | not child =>
      rw [odataPhrase, refusals_of_form rfl rfl]
      simp only [exposed, children, List.flatMap_singleton]
      exact (operand List.mem_cons_self).bind_ok
    | comparison op left right =>
      rw [odataPhrase, refusals_of_subject left [right] rfl rfl rfl rfl, List.flatMap_singleton]
      exact (operand (List.mem_cons_of_mem _ List.mem_cons_self)).bind_ok
    | isNull subject =>
      rw [odataPhrase, refusals_of_subject subject [] rfl rfl rfl rfl]
      exact .ok _
    | spatial op left right =>
      obtain ⟨json, encoded⟩ := h op left right (mem_preorder_self _)
      rw [odataPhrase, refusals_of_form rfl rfl, encoded]
      exact .ok _
    | _ => exact endsBy_refuse rfl

/-- The condition of a tree in SQL fails by the first node that has no form or no text. -/
theorem endsBy_sqlPhrase (n : Node) (h : n.EncodesShapes) : EndsBy n.sqlPhrase (n.refusals .sql sqlVariants) := by
  induction n using byChildren with
  | step n ih =>
    have operand {c : Node} (child : c ∈ n.children) := ih c child (h.child child)
    cases n with
    | property p | timestamp t | date d =>
      rw [refusals_of_form rfl rfl]
      exact .ok _
    | literal value => exact endsBy_literal value _ rfl
    | and children | or children =>
      rw [sqlPhrase, sqlPhrases_eq_mapM, refusals_of_form rfl rfl]
      exact (EndsBy.mapM fun c => operand).bind_ok
    | not child =>
      rw [sqlPhrase, refusals_of_form rfl rfl]
      simp only [exposed, children, List.flatMap_singleton]
      exact (operand List.mem_cons_self).bind_ok
    | comparison op left right =>
      rw [sqlPhrase, refusals_of_subject left [right] rfl rfl rfl rfl, List.flatMap_singleton]
      exact (operand (List.mem_cons_of_mem _ List.mem_cons_self)).bind_ok
    | between subject lower upper =>
      rw [sqlPhrase, refusals_of_subject subject [lower, upper] rfl rfl rfl rfl, List.flatMap_cons, List.flatMap_singleton]
      have low := operand (c := lower) (by simp [children])
      have high := operand (c := upper) (by simp [children])
      exact low.bind fun _ => high.bind_ok
    | like subject pattern | isNull subject =>
      rw [sqlPhrase, refusals_of_subject subject [] rfl rfl rfl rfl]
      exact .ok _
    | isIn subject values =>
      rw [sqlPhrase, sqlPhrases_eq_mapM, refusals_of_subject subject values rfl rfl rfl rfl]
      exact (EndsBy.mapM fun c member => operand (List.mem_cons_of_mem _ member)).bind_ok
    | spatial op left right =>
      obtain ⟨json, encoded⟩ := h op left right (mem_preorder_self _)
      rw [sqlPhrase, refusals_of_form rfl rfl, encoded]
      exact .ok _
    | _ => exact endsBy_refuse rfl

end Node

/-! ## The text form -/

/-- Whether coordinates are nested to a depth, whatever their positions hold. -/
def Wkt.Deep : ℕ → Datum → Prop
  | 0, .tuple _ => True
  | k + 1, .tuple items => ∀ d ∈ items, Deep k d
  | _, _ => False

theorem Wkt.Nested.deep {p : List Number → Prop} {k : ℕ} {d : Datum} (h : Nested p k d) : Deep k d := by
  induction k generalizing d with
  | zero =>
    cases d with
    | tuple items => trivial
    | _ => cases h
  | succ k ih =>
    cases d with
    | tuple items => exact fun d member => ih (h d member)
    | _ => cases h

/-- Coordinates nested to a depth have a text of that depth if what they hold has one. -/
theorem Wkt.exists_level_of_deep {k : ℕ} {d : Datum} (h : Deep k d) :
    ∃ text, level k d = printing d.isPrintable text := by
  induction k generalizing d with
  | zero =>
    cases d with
    | tuple items =>
      refine ⟨String.intercalate " " (items.map Datum.plain), ?_⟩
      rw [Datum.isPrintable, Datum.allPrintable_eq_all]
      rfl
    | _ => cases h
  | succ k ih =>
    cases d with
    | tuple items =>
      obtain ⟨texts, written⟩ := exists_forall₂ fun d member => ih (h d member)
      have whole : level (k + 1) (.tuple items) = (items.mapM (level k)).map listed := rfl
      refine ⟨listed texts, ?_⟩
      rw [whole, mapM_printing written, printing_map, Datum.isPrintable, Datum.allPrintable_eq_all]
    | _ => cases h

/-- A geometry of a type without a well-known text is refused by its type. -/
theorem Geometry.toWkt_of_foreign {g : Geometry} (h : Wkt.form? g.type = none) :
    g.toWkt = .error (.unsupportedNode ("Geometry(" ++ g.type ++ ")") Dialect.text.name) := by
  unfold Wkt.form? at h
  split at h <;> try cases h
  rw [toWkt]
  split <;> first | rfl | contradiction

namespace Node

/-- Whether the geometries of a tree are nested to the depth of their type, if that has a well-known text. -/
def NestsGeometries (n : Node) : Prop :=
  ∀ g, .geometry g ∈ n.preorder → ∀ word k, Wkt.form? g.type = some (word, k) → Wkt.Deep k g.coordinates

theorem NestsGeometries.child {n c : Node} (h : n.NestsGeometries) (child : c ∈ n.children) : c.NestsGeometries :=
  fun g member => h g (mem_preorder_of_child child member)

/-- The errors that the text form has for the nodes of a tree. -/
def textFaults (n : Node) : List Error :=
  n.preorder.flatMap (ownFault isForeign fun m => .unsupportedNode m.shapeName Dialect.text.name)

/-- The errors of a tree are its own and those of its operands. -/
theorem textFaults_eq (n : Node) :
    n.textFaults = n.ownFault isForeign (fun m => .unsupportedNode m.shapeName Dialect.text.name) ++
      n.children.flatMap textFaults := by
  rw [textFaults, preorder_eq, List.flatMap_cons, List.flatMap_assoc]
  rfl

/-- A node that is no foreign geometry and holds no numbers itself is refused for its operands only. -/
theorem textFaults_of_own {n : Node} (formed : n.isForeign = false) (own : n.hasOwnText = true) :
    n.textFaults = n.children.flatMap textFaults := by
  rw [textFaults_eq, ownFault_eq_nil.2 ⟨formed, own⟩, List.nil_append]

/-- The property that a predicate begins with is never refused. -/
theorem textFaults_of_subject {n : Node} (p : Property) (rest : List Node) (formed : n.isForeign = false)
    (own : n.hasOwnText = true) (subject : n.children = .property p :: rest) :
    n.textFaults = rest.flatMap textFaults := by
  have none : (Node.property p).textFaults = [] := textFaults_of_own rfl rfl
  rw [textFaults_of_own formed own, subject, List.flatMap_cons, none, List.nil_append]

theorem textFaults_instant (t : Instant) : t.toNode.textFaults = [] := by
  cases t <;> exact textFaults_of_own rfl rfl

/-- What is made of the numbers of a node is refused if they have no text. -/
theorem endsBy_printing {α : Type} {n : Node} (a : α) (formed : n.isForeign = false) (leaf : n.children = []) :
    EndsBy (printing n.hasOwnText a) n.textFaults := by
  rw [textFaults_eq, leaf, ownFault, formed]
  cases n.hasOwnText <;> simp [printing, EndsBy]

/-- A geometry in text form fails if it is foreign. -/
theorem endsBy_toWkt (g : Geometry) (h : (Node.geometry g).NestsGeometries) :
    EndsBy g.toWkt (Node.geometry g).textFaults := by
  cases form : Wkt.form? g.type with
  | none =>
    have foreign : isForeign (.geometry g) = true := congrArg Option.isNone form
    rw [textFaults_eq, ownFault_of_foreign foreign, Geometry.toWkt_of_foreign form]
    exact .error _ _
  | some found =>
    have formed : isForeign (.geometry g) = false := congrArg Option.isNone form
    obtain ⟨text, written⟩ := Wkt.exists_level_of_deep (h g (mem_preorder_self _) _ _ form)
    rw [Geometry.toWkt_eq form, written, printing_map]
    exact endsBy_printing _ formed rfl

/-- The text form of a tree fails by the first geometry without a well-known text, or number without a text. -/
theorem endsBy_textPhrase (n : Node) (h : n.NestsGeometries) : EndsBy n.textPhrase n.textFaults := by
  induction n using byChildren with
  | step n ih =>
    have operand {c : Node} (child : c ∈ n.children) := ih c child (h.child child)
    cases n with
    | property p | timestamp t | date d | interval start stop =>
      rw [textFaults_of_own rfl rfl]
      exact .ok _
    | literal value | bbox extent => exact endsBy_printing _ rfl rfl
    | geometry g => exact (endsBy_toWkt g h).map
    | array elements =>
      rw [textPhrase, textPhrases_eq_mapM, textFaults_of_own rfl rfl]
      exact (EndsBy.mapM fun c => operand).bind_ok
    | and children | or children =>
      rw [textPhrase, groupedPhrases_eq_mapM, textFaults_of_own rfl rfl]
      exact (EndsBy.mapM fun c child => (operand child).map).bind_ok
    | not child =>
      rw [textPhrase, textFaults_of_own rfl rfl, children, List.flatMap_singleton]
      exact (operand List.mem_cons_self).bind_ok
    | comparison op left right =>
      rw [textPhrase, textFaults_of_subject left [right] rfl rfl rfl, List.flatMap_singleton]
      exact (operand (List.mem_cons_of_mem _ List.mem_cons_self)).bind_ok
    | between subject lower upper =>
      rw [textPhrase, textFaults_of_subject subject [lower, upper] rfl rfl rfl, List.flatMap_cons, List.flatMap_singleton]
      have low := operand (c := lower) (by simp [children])
      have high := operand (c := upper) (by simp [children])
      exact low.bind fun _ => high.bind_ok
    | like subject pattern | isNull subject =>
      rw [textPhrase, textFaults_of_subject subject [] rfl rfl rfl]
      exact .ok _
    | isIn subject values =>
      rw [textPhrase, textPhrases_eq_mapM, textFaults_of_subject subject values rfl rfl rfl]
      exact (EndsBy.mapM fun c member => operand (List.mem_cons_of_mem _ member)).bind_ok
    | spatial op left right =>
      rw [textPhrase, textFaults_of_subject left [right.toNode] rfl rfl rfl, List.flatMap_singleton]
      have shape := operand (c := right.toNode) (by simp [children])
      have same : right.toNode.textPhrase = right.textPhrase := by cases right <;> rfl
      rw [same] at shape
      exact shape.bind_ok
    | temporal op left right =>
      rw [textPhrase, textFaults_of_subject left [right.toNode] rfl rfl rfl, List.flatMap_singleton, textFaults_instant]
      exact .ok _
    | arrayComparison op left right =>
      rw [textPhrase, textFaults_of_own rfl rfl, children, List.flatMap_cons, List.flatMap_singleton]
      have first := operand (c := left) (by simp [children])
      have second := operand (c := right) (by simp [children])
      exact first.bind fun _ => second.bind_ok
    | function name args =>
      rw [textPhrase, textPhrases_eq_mapM, textFaults_of_own rfl rfl]
      exact (EndsBy.mapM fun c => operand).bind_ok

/-! ## Renderings -/

/-- Every dialect fails by the first node that it cannot render, in the order of the tree, and renders the tree if there is
none. OData and SQL do not look at the operands of spatial relations except to write the shapes as JSON; where that is
possible, they refuse the variants that they have no form for. The text form refuses geometries of types without a
well-known text, as long as the others are nested to the depth of their types. Nothing else stands in the way but numbers
that have no text: integers of too many digits, for which the error is another one. -/
theorem refuses_first_offender (n : Node) :
    (n.EncodesShapes → Refuses n.toOData n.outline (isNone odataVariants) variant "odata") ∧
      (n.EncodesShapes → Refuses n.toSql n.outline (isNone sqlVariants) variant "sql") ∧
        (n.NestsGeometries → Refuses n.toText n.preorder isForeign shapeName "cql2-text") :=
  ⟨fun encodes => .of_endsBy (n.endsBy_odataPhrase encodes).map, fun encodes => .of_endsBy (n.endsBy_sqlPhrase encodes).map,
    fun nests => .of_endsBy (n.endsBy_textPhrase nests).map⟩

/-- A place, in a relation of a filter. -/
def placed : Node :=
  .spatial .within ⟨"geometry"⟩ (.geometry ⟨"Point", .tuple [.num (.int 1), .num (.int 2)], none⟩)

/-- A range that ends in a list. -/
def ranged : Node :=
  .between ⟨"cloud"⟩ (.literal (.num (.int 0))) (.array [])

/-- A filter on a place, on such a range, and on a collection of geometries. -/
def mixedFilter : Node :=
  .and [placed, .not ranged, .comparison .eq ⟨"footprint"⟩ (.geometry ⟨"GeometryCollection", .tuple [], none⟩)]

/-- Each dialect refuses another node of the sample filter. -/
theorem refuses_first_offender_mixedFilter :
    mixedFilter.EncodesShapes ∧ mixedFilter.NestsGeometries ∧
      mixedFilter.toOData = .error (.unsupportedNode "Between" "odata") ∧
      mixedFilter.toSql = .error (.unsupportedNode "ArrayLiteral" "sql") ∧
      mixedFilter.toText = .error (.unsupportedNode "Geometry(GeometryCollection)" "cql2-text") := by
  have encodes : mixedFilter.EncodesShapes := by
    intro op left right member
    have own : op = .within ∧ left = ⟨"geometry"⟩ ∧
        right = .geometry ⟨"Point", .tuple [.num (.int 1), .num (.int 2)], none⟩ := by
      simpa [mixedFilter, placed, ranged, preorder, preorders, Shape.toNode] using member
    obtain ⟨rfl, rfl, rfl⟩ := own
    exact ⟨_, rfl⟩
  have nests : mixedFilter.NestsGeometries := by
    intro g member word k form
    have own : g = ⟨"Point", .tuple [.num (.int 1), .num (.int 2)], none⟩ ∨
        g = ⟨"GeometryCollection", .tuple [], none⟩ := by
      simpa [mixedFilter, placed, ranged, preorder, preorders, Shape.toNode] using member
    rcases own with rfl | rfl
    · cases form
      trivial
    · cases form
  have zero : Number.isPrintable (.int 0) = true := Number.isPrintable_int (by decide)
  have point : Datum.isPrintable (.tuple [.num (.int 1), .num (.int 2)]) = true := by decide +kernel
  have odata : mixedFilter.outline = [mixedFilter, placed, .not ranged] ++ ranged :: (mixedFilter.outline.drop 4) := by
    simp [mixedFilter, placed, ranged, outline_eq, exposed, children]
  have sql : mixedFilter.outline = [mixedFilter, placed, .not ranged, ranged, .property ⟨"cloud"⟩,
      .literal (.num (.int 0))] ++ .array [] :: (mixedFilter.outline.drop 7) := by
    simp [mixedFilter, placed, ranged, outline_eq, exposed, children]
  have text : mixedFilter.preorder = mixedFilter.preorder.dropLast ++
      .geometry ⟨"GeometryCollection", .tuple [], none⟩ :: [] := by
    simp [mixedFilter, placed, ranged, preorder, preorders, Shape.toNode]
  obtain ⟨refusesOData, refusesSql, refusesText⟩ := refuses_first_offender mixedFilter
  refine ⟨encodes, nests, (refusesOData encodes).eq_unsupported _ _ _ odata ?_ rfl,
    (refusesSql encodes).eq_unsupported _ _ _ sql ?_ rfl, (refusesText nests).eq_unsupported _ _ _ text ?_ rfl⟩
  · simp [mixedFilter, placed, isNone, variant, odataVariants, hasOwnText]
  · simp [mixedFilter, placed, ranged, isNone, variant, odataVariants, sqlVariants, hasOwnText, Scalar.isPrintable, zero]
  · simp [mixedFilter, placed, ranged, preorder, preorders, Shape.toNode, isForeign, Wkt.form?, hasOwnText,
      Scalar.isPrintable, zero, point]

/-- A filter on a number that has no text. -/
def endlessFilter : Node :=
  .comparison .eq ⟨"count"⟩ (.literal (.num .endless))

/-- Every node of it has a form in each of the dialects, and still it has no text in any of them. -/
theorem refuses_first_offender_endlessFilter :
    endlessFilter.WellFormed ∧ endlessFilter.EncodesShapes ∧ endlessFilter.NestsGeometries ∧
      (∀ n ∈ endlessFilter.outline, isNone odataVariants n = false ∧ isNone sqlVariants n = false) ∧
      (∀ n ∈ endlessFilter.preorder, n.isForeign = false) ∧
      endlessFilter.toOData = .error .tooManyDigits ∧ endlessFilter.toSql = .error .tooManyDigits ∧
      endlessFilter.toText = .error .tooManyDigits := by
  have long {α : Type} (a : α) : printing (Scalar.num .endless).isPrintable a = .error .tooManyDigits :=
    printing_eq_error.2 ⟨Number.isPrintable_endless, rfl⟩
  refine ⟨?_, ?_, ?_, ?_, ?_, ?_, ?_, ?_⟩
  · simp [endlessFilter, WellFormed]
  · simp [endlessFilter, EncodesShapes, preorder]
  · simp [endlessFilter, NestsGeometries, preorder]
  · simp [endlessFilter, outline_eq, exposed, children, isNone, variant, odataVariants, sqlVariants]
  · simp [endlessFilter, preorder, isForeign]
  · rw [endlessFilter, toOData, odataPhrase, odataPhrase, long]
    rfl
  · rw [endlessFilter, toSql, sqlPhrase, sqlPhrase, long]
    rfl
  · rw [endlessFilter, toText, textPhrase, textPhrase, long]
    rfl

end Node

end CatalogFilter
