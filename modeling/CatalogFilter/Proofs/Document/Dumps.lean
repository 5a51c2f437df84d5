import CatalogFilter.Proofs.Document.RoundTrip
import CatalogFilter.Proofs.Json.RoundTrip
import CatalogFilter.Proofs.Node.Each
import CatalogFilter.Settings

/-!
# Written text is read back

* `isJson_toDocument` — the document of a tree is a value of JSON, if the numbers and coordinates of the tree are.
* `exists_dumps` — a tree has a text in every layout, and its bytes stand for the document.
* `readBytes_dumps` — a tree is read back from its JSON text, whatever layout is asked for or left to the settings, as an
  equal tree as long as no time is ambiguous.

The text leads back to the document, and the document to the tree. The first half is about values of JSON and knows
nothing of trees; what trees add is only that their documents are such values.
-/

namespace CatalogFilter

/-- Whether the coordinates of a geometry consist of null, booleans, numbers, texts, sequences and objects with distinct
names, and of no tuples inside the objects. -/
def Geometry.HasKeyedCoordinates (g : Geometry) : Prop :=
  Json.Keyed g.coordinates.thaw

/-- Whether a node that is a geometry has such coordinates. -/
def Node.HasKeyedCoordinates : Node → Prop
  | .geometry g => g.HasKeyedCoordinates
  | _ => True

namespace Document

open Json

/-! ## Documents of trees -/

theorem isJson_str (t : String) : IsJson (.str t) :=
  ⟨trivial, trivial⟩

theorem isJson_num {n : Number} (h : IsJsonNumber n) : IsJson (.num n) :=
  ⟨trivial, h⟩

/-- An object of one member is a value of JSON with the member's value. -/
theorem isJson_single {name : String} {d : Datum} (h : IsJson d) : IsJson (.object [(name, d)]) :=
  isJson_object_iff.2 ⟨List.nodup_singleton _, fun m member => by rwa [List.mem_singleton.1 member]⟩

/-- An expression object is a value of JSON with its arguments. -/
theorem isJson_expressionDocument {op : String} {args : List Datum} (h : ∀ d ∈ args, IsJson d) :
    IsJson (expressionDocument op args) := by
  refine isJson_object_iff.2 ⟨by simp, ?_⟩
  intro m member
  simp only [List.mem_cons, List.not_mem_nil, or_false] at member
  rcases member with rfl | rfl
  · exact isJson_str _
  · exact isJson_list_iff.2 h

theorem isJson_property (p : Property) : IsJson p.toDocument :=
  isJson_single (isJson_str p.name)

theorem isJson_numbers {extent : List Number} (h : ∀ n ∈ extent, IsJsonNumber n) : IsJson (.list (extent.map .num)) := by
  refine isJson_list_iff.2 fun d member => ?_
  obtain ⟨n, among, rfl⟩ := List.mem_map.1 member
  exact isJson_num (h n among)

/-- A geometry's object is a value of JSON if its coordinates and its box are. -/
theorem isJson_toGeoJson {g : Geometry} (numbers : g.Meets (.numbers IsJsonNumber)) (keyed : g.HasKeyedCoordinates) :
    IsJson (g.toGeoJson true) := by
  have coordinates : IsJson g.coordinates.thaw := ⟨keyed, Datum.numbers_thaw _ numbers.1⟩
  unfold Geometry.toGeoJson
  cases boxed : g.bbox with
  | none =>
    refine isJson_object_iff.2 ⟨by simp, ?_⟩
    simp only [List.mem_cons, List.not_mem_nil, or_false]
    rintro m (rfl | rfl)
    · exact isJson_str _
    · exact coordinates
  | some extent =>
    refine isJson_object_iff.2 ⟨by simp, ?_⟩
    simp only [List.cons_append, List.nil_append, List.mem_cons, List.not_mem_nil, or_false]
    rintro m (rfl | rfl | rfl)
    · exact isJson_str _
    · exact coordinates
    · exact isJson_numbers (numbers.2 extent boxed)

/-- A shape's object is a value of JSON. -/
theorem isJson_shape {s : Shape} (numbers : s.Meets (.numbers IsJsonNumber)) (keyed : s.toNode.HasKeyedCoordinates) :
    IsJson s.toDocument := by
  cases s with
  | geometry g => exact isJson_toGeoJson numbers keyed
  | bbox extent => exact isJson_single (isJson_numbers numbers)

theorem isJson_interval (start stop : Option OffsetDateTime) : IsJson (intervalDocument start stop) := by
  refine isJson_single (isJson_list_iff.2 ?_)
  simp only [List.mem_cons, List.not_mem_nil, or_false]
  rintro d (rfl | rfl)
  · exact isJson_str _
  · exact isJson_str _

theorem isJson_instant (t : Instant) : IsJson t.toDocument := by
  cases t with
  | timestamp t => exact isJson_single (isJson_str _)
  | date d => exact isJson_single (isJson_str _)
  | interval start stop => exact isJson_interval start stop

mutual

/-- The document of a tree is a value of JSON, if its numbers and its coordinates are. -/
theorem isJson_toDocument (n : Node) (numbers : n.Meets (.numbers IsJsonNumber))
    (keyed : n.Each Node.HasKeyedCoordinates) : IsJson n.toDocument := by
  cases n with
  | property p => exact isJson_property p
  | literal value =>
    cases value with
    | bool b => exact ⟨trivial, trivial⟩
    | num v => exact isJson_num numbers
    | str s => exact isJson_str s
  | timestamp t => exact isJson_instant (.timestamp t)
  | date d => exact isJson_instant (.date d)
  | interval start stop => exact isJson_interval start stop
  | geometry g => exact isJson_toGeoJson numbers keyed.root
  | bbox extent => exact isJson_single (isJson_numbers numbers)
  | array elements => exact isJson_list_iff.2 (isJson_toDocuments elements numbers fun c h => keyed.child h)
  | and children => exact isJson_expressionDocument (isJson_toDocuments children numbers fun c h => keyed.child h)
  | or children => exact isJson_expressionDocument (isJson_toDocuments children numbers fun c h => keyed.child h)
  | not child =>
    have inner := isJson_toDocument child numbers (keyed.child List.mem_cons_self)
    exact isJson_expressionDocument (by simpa using inner)
  | comparison op left right =>
    have operand := isJson_toDocument right numbers (keyed.child (by simp [Node.children]))
    exact isJson_expressionDocument (by simpa using ⟨isJson_property left, operand⟩)
  | between subject lower upper =>
    have low := isJson_toDocument lower numbers.1 (keyed.child (by simp [Node.children]))
    have high := isJson_toDocument upper numbers.2 (keyed.child (by simp [Node.children]))
    exact isJson_expressionDocument (by simpa using ⟨isJson_property subject, low, high⟩)
  | like subject pattern =>
    exact isJson_expressionDocument (by simpa using ⟨isJson_property subject, isJson_str pattern⟩)
  | isIn subject values =>
    have each := isJson_toDocuments values numbers fun c h => keyed.child (List.mem_cons_of_mem _ h)
    exact isJson_expressionDocument (by simpa using ⟨isJson_property subject, isJson_list_iff.2 each⟩)
  | isNull subject => exact isJson_expressionDocument (by simpa using isJson_property subject)
  | spatial op left right =>
    have shape := isJson_shape numbers (keyed.child (c := right.toNode) (by simp [Node.children])).root
    exact isJson_expressionDocument (by simpa using ⟨isJson_property left, shape⟩)
  | temporal op left right =>
    exact isJson_expressionDocument (by simpa using ⟨isJson_property left, isJson_instant right⟩)
  | arrayComparison op left right =>
    have first := isJson_toDocument left numbers.1 (keyed.child (by simp [Node.children]))
    have second := isJson_toDocument right numbers.2 (keyed.child (by simp [Node.children]))
    exact isJson_expressionDocument (by simpa using ⟨first, second⟩)
  | function name args =>
    exact isJson_expressionDocument (isJson_toDocuments args numbers.2 fun c h => keyed.child h)

/-- So are the documents of some trees. -/
theorem isJson_toDocuments (ns : List Node) (numbers : Node.AllMeet (.numbers IsJsonNumber) ns)
    (keyed : ∀ n ∈ ns, n.Each Node.HasKeyedCoordinates) : ∀ d ∈ Node.toDocuments ns, IsJson d := by
  cases ns with
  | nil => exact nofun
  | cons n rest =>
    have first := isJson_toDocument n numbers.1 (keyed n List.mem_cons_self)
    have others := isJson_toDocuments rest numbers.2 fun m h => keyed m (List.mem_cons_of_mem n h)
    intro d h
    rcases List.mem_cons.1 h with rfl | h
    · exact first
    · exact others d h

end

/-! ## Bytes -/

/-- A text is read from its bytes. -/
theorem readBytes_toUTF8 (r : Rules) (text : String) : Json.readBytes r text.toUTF8 = Json.read r text := by
  have decoded : String.fromUTF8? text.toUTF8 = some text := dif_pos text.isValidUTF8
  rw [Json.readBytes, decoded]
  rfl

/-- A layout is the one asked for, or if none is, that of settings that can be read. -/
theorem exists_styleOr {env : Settings.Environment} {indent : Option Bool}
    (settings : indent = none → ∃ s, Settings.read env [] = .ok s) : ∃ style, Settings.styleOr env indent = .ok style := by
  cases indent with
  | some indent => exact ⟨_, rfl⟩
  | none =>
    obtain ⟨s, read⟩ := settings rfl
    exact ⟨Settings.layout s.indent, by rw [Settings.styleOr, read]; rfl⟩

/-- In any layout a tree has a text. Its bytes stand for the document of the tree, and what is read from them is what is
read from the document. -/
theorem exists_dumps (names : List String) {n : Node} (numbers : n.Meets (.numbers IsJsonNumber))
    (keyed : n.Each Node.HasKeyedCoordinates) (shallow : depth n.toDocument ≤ 254) (style : Style) :
    ∃ text, n.dumps style = .ok text ∧ Json.readBytes .strict text.toUTF8 = some n.toDocument ∧
      readBytes names text.toUTF8 = read names n.toDocument := by
  have json := isJson_toDocument n numbers keyed
  have written := write?_of_isJson style json shallow
  have back : Json.readBytes .strict (String.ofList (write style 0 n.toDocument)).toUTF8 = some n.toDocument := by
    rw [readBytes_toUTF8]
    exact read_write style json (by omega)
  refine ⟨String.ofList (write style 0 n.toDocument), ?_, back, ?_⟩
  · rw [Node.dumps, written]
  · rw [readBytes, back]

/-- The writer of text is undone by the reader of bytes. Of every expression that keeps the rules of nodes, whose
functions are known under the lower-case names that they have, whose offsets are whole minutes, whose numbers are finite
and of 64 bits if they are integers, whose coordinates JSON can hold, and whose document is nested in no more than 254
arrays and objects, the JSON text exists in the layout asked for, or if none is, in that of any settings that can be
read; its bytes stand for the document whatever the layout, and are read as the same tree, with the offset of each time in
place of its zone. That tree equals the one that was written, unless a time of it is ambiguous. -/
theorem readBytes_dumps (names : List String) (env : Settings.Environment) (n : Node) (wellFormed : n.WellFormed)
    (expression : n.isExpression = true) (meets : n.Meets (.readable (names.map Text.lower)))
    (numbers : n.Meets (.numbers IsJsonNumber)) (keyed : n.Each Node.HasKeyedCoordinates)
    (shallow : depth n.toDocument ≤ 254) :
    (∀ indent : Option Bool, (indent = none → ∃ s, Settings.read env [] = .ok s) →
      ∃ style text, Settings.styleOr env indent = .ok style ∧ n.dumps style = .ok text ∧
        Json.readBytes .strict text.toUTF8 = some n.toDocument ∧
        readBytes names text.toUTF8 = .ok (n.mapTimes .named)) ∧
    ((n.mapTimes .named).equal n = true ↔ ∀ t ∈ n.times, t.isAmbiguous = false) := by
  have reads := (readsBack n wellFormed meets).expression expression
  refine ⟨fun indent settings => ?_, Node.equal_named_iff meets⟩
  obtain ⟨style, chosen⟩ := exists_styleOr settings
  obtain ⟨text, written, back, same⟩ := exists_dumps names numbers keyed shallow style
  exact ⟨style, text, chosen, written, back, same.trans (read_eq_ok.2 reads)⟩

/-- The sample filter comes back from its bytes, whatever the layout. -/
theorem readBytes_dumps_sampleFilter :
    sampleFilter.WellFormed ∧ sampleFilter.isExpression = true ∧
      sampleFilter.Meets (.readable (["CaseI"].map Text.lower)) ∧ sampleFilter.Meets (.numbers IsJsonNumber) ∧
      sampleFilter.Each Node.HasKeyedCoordinates ∧ depth sampleFilter.toDocument ≤ 254 ∧
      (∃ s, Settings.read [("CQL2_JSON_INDENT", "yes")] [] = .ok s) ∧
      (∀ indent : Option Bool, ∃ style text,
        Settings.styleOr [("CQL2_JSON_INDENT", "yes")] indent = .ok style ∧ sampleFilter.dumps style = .ok text ∧
        Json.readBytes .strict text.toUTF8 = some sampleFilter.toDocument ∧
        readBytes ["CaseI"] text.toUTF8 = .ok (sampleFilter.mapTimes .named)) ∧
      (sampleFilter.mapTimes .named).equal sampleFilter = true := by
  have numbers : sampleFilter.Meets (.numbers IsJsonNumber) := by
    simp [sampleFilter, Node.Meets, Node.AllMeet, PartRules.numbers, Scalar.Meets, Shape.Meets, Geometry.Meets,
      Datum.Numbers, Datum.AllNumbers, Instant.Meets, IsJsonNumber, fits64]
  have keyed : sampleFilter.Each Node.HasKeyedCoordinates := by
    simp [sampleFilter, Node.Each, Node.preorder, Node.preorders, Node.HasKeyedCoordinates,
      Geometry.HasKeyedCoordinates, Shape.toNode, Instant.toNode, Datum.thaw, Datum.thawAll, Keyed, AllKeyed]
  have shallow : depth sampleFilter.toDocument ≤ 254 := by decide
  have settings : ∃ s, Settings.read [("CQL2_JSON_INDENT", "yes")] [] = .ok s := by
    have distinct : Text.lower "CQL2_JSON_INDENT" ≠ Text.lower "CQL2_EXTRA_FUNCTIONS" ∧
        Text.lower "CQL2_JSON_INDENT" ≠ Text.lower "CQL2_VALIDATE_QUERYABLES" := by decide
    have asked : Field.truth? "yes" = some true := by decide +kernel
    refine ⟨⟨"", true, false⟩, ?_⟩
    simp [Settings.read, Settings.source?, Settings.fromEnvironment?, Settings.readOr, Settings.extraFunctionsName,
      Settings.indentName, Settings.validateName, distinct, Field.bool, asked]
    rfl
  obtain ⟨back, same⟩ := readBytes_dumps ["CaseI"] [("CQL2_JSON_INDENT", "yes")] sampleFilter wellFormed_sampleFilter rfl
    meets_sampleFilter numbers keyed shallow
  exact ⟨wellFormed_sampleFilter, rfl, meets_sampleFilter, numbers, keyed, shallow, settings,
    fun indent => back indent fun _ => settings, same.2 (by decide)⟩

/-- What is read from the bytes of the filter with an ambiguous time is not equal to it, in either layout. -/
theorem readBytes_dumps_nightFilter :
    nightFilter.WellFormed ∧ nightFilter.isExpression = true ∧ nightFilter.Meets (.readable ([].map Text.lower)) ∧
      nightFilter.Meets (.numbers IsJsonNumber) ∧ nightFilter.Each Node.HasKeyedCoordinates ∧
      depth nightFilter.toDocument ≤ 254 ∧
      ∀ style, ∃ text back, nightFilter.dumps style = .ok text ∧ readBytes [] text.toUTF8 = .ok back ∧
        back.equal nightFilter = false := by
  have numbers : nightFilter.Meets (.numbers IsJsonNumber) := trivial
  have keyed : nightFilter.Each Node.HasKeyedCoordinates := by
    simp [nightFilter, Node.Each, Node.preorder, Node.HasKeyedCoordinates, Instant.toNode]
  have shallow : depth nightFilter.toDocument ≤ 254 := by decide
  have readable : ReadsBack [] nightFilter := readsBack nightFilter wellFormed_nightFilter meets_nightFilter
  refine ⟨wellFormed_nightFilter, rfl, meets_nightFilter, numbers, keyed, shallow, fun style => ?_⟩
  obtain ⟨text, written, -, same⟩ := exists_dumps [] numbers keyed shallow style
  exact ⟨text, _, written, same.trans (read_eq_ok.2 (readable.expression rfl)), named_ne_nightFilter⟩

end Document

end CatalogFilter
