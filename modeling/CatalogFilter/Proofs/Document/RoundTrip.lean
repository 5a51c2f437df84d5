import CatalogFilter.Document.Writer
import CatalogFilter.Proofs.Calendar.Timestamp
import CatalogFilter.Proofs.Document.Reading
import CatalogFilter.Proofs.Node.Parts

/-!
# Written trees read back

* `readsProperty_toDocument`, `readsShape_toDocument`, `readsInstant_toDocument` — the parts of a tree stand for
  themselves once written.
* `readsBack` — so does a tree, in every position that it may take.
* `read_toDocument` — a written expression is read as itself with the offset of each time in place of its zone, which is
  an equal tree as long as no time is ambiguous.

By the rules and not by the reader: each variant is written as a value to which one rule applies, and the
members that an object is written with leave no other rule.
-/

namespace CatalogFilter.Document

variable {functions : List String}

/-! ## Parts -/

/-- A written property stands for itself. -/
theorem readsProperty_toDocument {p : Property} (named : p.name ≠ "") : ReadsProperty p.toDocument p :=
  .intro (List.lookup_cons_self) named

/-- Thawing leaves no value null that was not. -/
theorem thaw_ne_null {d : Datum} (h : d ≠ .null) : d.thaw ≠ .null := by
  cases d with
  | null => exact absurd rfl h
  | _ => simp [Datum.thaw]

/-- A written geometry stands for itself. -/
theorem readsGeometry_toGeoJson {g : Geometry} (valid : g.Valid) : ReadsGeometry (g.toGeoJson true) g := by
  obtain ⟨notEmpty, located, frozen, counted⟩ := valid
  unfold Geometry.toGeoJson
  cases boxed : g.bbox with
  | none =>
    refine .intro rfl notEmpty (thaw_ne_null located) (Datum.freeze_thaw _ frozen).symm ?_
    rw [boxed]
    exact .none
  | some extent =>
    refine .intro rfl notEmpty (thaw_ne_null located) (Datum.freeze_thaw _ frozen).symm ?_
    rw [boxed]
    exact .list rfl (counted extent boxed)

/-- A written geometry is read by its type, its own box or not. -/
theorem leads_toGeoJson (g : Geometry) :
    ∃ members, g.toGeoJson true = .object members ∧
      leading? operandKeys members = some ("type", .str g.type) := by
  unfold Geometry.toGeoJson
  cases g.bbox with
  | none => exact ⟨_, rfl, by simp [operandKeys, has]⟩
  | some extent => exact ⟨_, rfl, by simp [operandKeys, has]⟩

/-- A written shape stands for itself. -/
theorem readsShape_toDocument {s : Shape} (valid : s.Valid) : ReadsShape s.toDocument s := by
  cases s with
  | geometry g => exact .geometry (readsGeometry_toGeoJson valid)
  | bbox extent => exact .bbox rfl rfl (.intro rfl valid)

/-- A written time stands for itself, with its offset named. -/
theorem readsTimestamp_text {t : OffsetDateTime} (whole : t.offset.IsWholeMinutes) :
    ReadsTimestamp (.str t.text) t.named :=
  .intro (Timestamp.read_text whole)

/-- A written date stands for itself. -/
theorem readsDate_text (d : Date) : ReadsDate (.str d.text) d := by
  refine .intro ?_ (Date.read_text d)
  rw [← String.length_toList, Date.toList_text, Date.length_chars]

/-- A written end of an interval stands for itself. -/
theorem readsBound_writeBound {bound : Option OffsetDateTime}
    (whole : ∀ t, bound = some t → t.offset.IsWholeMinutes) :
    ReadsBound (.str (writeBound bound)) (bound.map .named) := by
  cases bound with
  | none => exact .open
  | some t => exact .closed (readsTimestamp_text (whole t rfl))

/-- A written interval stands for itself. -/
theorem readsInterval_intervalDocument {start stop : Option OffsetDateTime}
    (whole : (Instant.interval start stop).Meets (.readable functions)) :
    ReadsInterval (.list [.str (writeBound start), .str (writeBound stop)]) (start.map .named) (stop.map .named) :=
  .intro (readsBound_writeBound whole.1) (readsBound_writeBound whole.2)

/-- A written instant stands for itself. -/
theorem readsInstant_toDocument {t : Instant} (whole : t.Meets (.readable functions)) :
    ReadsInstant t.toDocument (t.mapTimes .named) := by
  cases t with
  | timestamp t => exact .timestamp (by simp [instantKeys, has]) (readsTimestamp_text whole)
  | date d => exact .date (by simp [instantKeys, has]) (readsDate_text d)
  | interval start stop =>
    exact .interval (by simp [instantKeys]) (readsInterval_intervalDocument whole)

/-! ## Frames -/

/-- A written expression has its own frame, if its operator is in lower case. -/
theorem hasFrame_expressionDocument {op : String} {args : List Datum} (lowered : Text.lower op = op) :
    HasFrame [("op", .str (Text.lower op)), ("args", .list args)] op args :=
  ⟨⟨Text.lower op, rfl, by rw [lowered, lowered]⟩, rfl⟩

/-- The symbols of operators are in lower case. -/
theorem hasFrame_symbol (op : Operator) (args : List Datum) :
    HasFrame [("op", .str (Text.lower op.symbol)), ("args", .list args)] op.symbol args :=
  hasFrame_expressionDocument (Operator.lower_symbol op)

/-- A written expression is an operand too. -/
theorem readsOperand_of_expression {op : String} {args : List Datum} {n : Node}
    (reads : Reads functions .expression (expressionDocument op args) n) :
    Reads functions .operand (expressionDocument op args) n :=
  .expression (by simp [operandKeys, has]; rfl) reads

/-! ## Trees -/

/-- A tree stands for itself once written, its offsets named: as an operand, and if it is an expression, also as
one. -/
structure ReadsBack (functions : List String) (n : Node) : Prop where
  operand : Reads functions .operand n.toDocument (n.mapTimes .named)
  expression : n.isExpression = true → Reads functions .expression n.toDocument (n.mapTimes .named)

/-- An expression stands for itself everywhere if it does as an expression. -/
theorem ReadsBack.of_expression {n : Node} {op : String} {args : List Datum}
    (written : n.toDocument = expressionDocument op args)
    (reads : Reads functions .expression (expressionDocument op args) (n.mapTimes .named)) :
    ReadsBack functions n := by
  refine ⟨?_, fun _ => ?_⟩
  · rw [written]
    exact readsOperand_of_expression reads
  · rw [written]
    exact reads

/-- Trees that stand for themselves each do so together. -/
theorem reads_toDocuments {position : Position} {ns : List Node}
    (each : ∀ n ∈ ns, Reads functions position n.toDocument (n.mapTimes .named)) :
    (Node.toDocuments ns).length = (Node.mapAllTimes .named ns).length ∧
      ∀ pair ∈ (Node.toDocuments ns).zip (Node.mapAllTimes .named ns), Reads functions position pair.1 pair.2 := by
  rw [Node.toDocuments_eq_map, Node.mapAllTimes_eq_map]
  refine ⟨by rw [List.length_map, List.length_map], fun pair h => ?_⟩
  rw [List.zip_map'] at h
  obtain ⟨n, member, rfl⟩ := List.mem_map.1 h
  exact each n member

/-- Expressions that stand for themselves each do so together. -/
theorem reads_children {ns : List Node} (each : ∀ n ∈ ns, ReadsBack functions n)
    (expressions : ∀ n ∈ ns, n.isExpression = true) :
    (Node.toDocuments ns).length = (Node.mapAllTimes .named ns).length ∧
      ∀ pair ∈ (Node.toDocuments ns).zip (Node.mapAllTimes .named ns),
        Reads functions .expression pair.1 pair.2 :=
  reads_toDocuments fun n h => (each n h).expression (expressions n h)

/-- Operands that stand for themselves each do so together. -/
theorem reads_operands {ns : List Node} (each : ∀ n ∈ ns, ReadsBack functions n) :
    (Node.toDocuments ns).length = (Node.mapAllTimes .named ns).length ∧
      ∀ pair ∈ (Node.toDocuments ns).zip (Node.mapAllTimes .named ns), Reads functions .operand pair.1 pair.2 :=
  reads_toDocuments fun n h => (each n h).operand

mutual

/-- Every well-formed tree with parts that can be read back stands for itself. -/
theorem readsBack (n : Node) (wellFormed : n.WellFormed) (meets : n.Meets (.readable functions)) :
    ReadsBack functions n := by
  cases n with
  | property p => exact ⟨.property (by simp [operandKeys]) wellFormed, nofun⟩
  | literal value =>
    refine ⟨?_, nofun⟩
    cases value with
    | bool b => exact .bool b
    | num v => exact .num v
    | str s => exact .str s
  | timestamp t => exact ⟨.timestamp (by simp [operandKeys, has]) (readsTimestamp_text meets), nofun⟩
  | date d => exact ⟨.date (by simp [operandKeys, has]) (readsDate_text d), nofun⟩
  | interval start stop =>
    exact ⟨.interval (by simp [operandKeys, has]) (readsInterval_intervalDocument meets), nofun⟩
  | geometry g =>
    obtain ⟨members, written, leads⟩ := leads_toGeoJson g
    have reads := readsGeometry_toGeoJson wellFormed
    refine ⟨?_, nofun⟩
    rw [Node.toDocument, written]
    rw [written] at reads
    exact .geometry leads reads
  | bbox extent => exact ⟨.bbox (by simp [operandKeys, has]) (.intro rfl wellFormed), nofun⟩
  | array elements =>
    obtain ⟨count, each⟩ := reads_operands (allReadBack elements wellFormed meets)
    exact ⟨.list count each, nofun⟩
  | and children =>
    obtain ⟨count, each⟩ := reads_children (allReadBack children wellFormed.1 meets) wellFormed.2
    exact .of_expression rfl (.and (hasFrame_symbol (.logical .and) _) count each)
  | or children =>
    obtain ⟨count, each⟩ := reads_children (allReadBack children wellFormed.1 meets) wellFormed.2
    exact .of_expression rfl (.or (hasFrame_symbol (.logical .or) _) count each)
  | not child =>
    have reads := (readsBack child wellFormed.1 meets).expression wellFormed.2
    exact .of_expression rfl (.not (hasFrame_symbol (.logical .not) _) reads)
  | comparison op left right =>
    have tested := readsProperty_toDocument wellFormed.1
    have reads := (readsBack right wellFormed.2 meets).operand
    exact .of_expression rfl (.comparison (hasFrame_symbol (.comparison op) _) tested reads)
  | between subject lower upper =>
    have tested := readsProperty_toDocument wellFormed.1
    have low := (readsBack lower wellFormed.2.1 meets.1).operand
    have high := (readsBack upper wellFormed.2.2 meets.2).operand
    exact .of_expression rfl (.between (hasFrame_symbol (.advanced .between) _) tested low high)
  | like subject pattern =>
    have tested := readsProperty_toDocument wellFormed
    exact .of_expression rfl (.like (hasFrame_symbol (.advanced .like) _) tested)
  | isIn subject values =>
    have tested := readsProperty_toDocument wellFormed.1
    obtain ⟨count, each⟩ := reads_operands (allReadBack values wellFormed.2 meets)
    exact .of_expression rfl (.isIn (hasFrame_symbol (.advanced .isIn) _) tested count each)
  | isNull subject =>
    have tested := readsProperty_toDocument wellFormed
    exact .of_expression rfl (.isNull (hasFrame_symbol (.advanced .isNull) _) tested)
  | spatial op left right =>
    have tested := readsProperty_toDocument wellFormed.1
    have shape := readsShape_toDocument wellFormed.2
    exact .of_expression rfl (.spatial (hasFrame_symbol (.spatial op) _) tested shape)
  | temporal op left right =>
    have tested := readsProperty_toDocument wellFormed
    have instant := readsInstant_toDocument meets
    exact .of_expression rfl (.temporal (hasFrame_symbol (.temporal op) _) tested instant)
  | arrayComparison op left right =>
    obtain ⟨wellFormedLeft, leftSide, wellFormedRight, rightSide⟩ := wellFormed
    have first := (readsBack left wellFormedLeft meets.1).operand
    have second := (readsBack right wellFormedRight meets.2).operand
    rw [← Node.isArraySide_mapTimes .named] at leftSide rightSide
    exact .of_expression rfl (.array (hasFrame_symbol (.array op) _) first leftSide second rightSide)
  | function name args =>
    obtain ⟨notEmpty, notCore, wellFormedArgs⟩ := wellFormed
    obtain ⟨⟨lowered, known⟩, meetsArgs⟩ := meets
    rw [lowered] at notCore
    obtain ⟨count, each⟩ := reads_operands (allReadBack args wellFormedArgs meetsArgs)
    have frame : HasFrame _ name (Node.toDocuments args) := hasFrame_expressionDocument lowered
    exact .of_expression rfl (.function frame notEmpty notCore known count each)

/-- Every tree of a list stands for itself. -/
theorem allReadBack (ns : List Node) (wellFormed : Node.AllWellFormed ns)
    (meets : Node.AllMeet (.readable functions) ns) : ∀ n ∈ ns, ReadsBack functions n := by
  cases ns with
  | nil => exact nofun
  | cons n rest =>
    have first := readsBack n wellFormed.1 meets.1
    have others := allReadBack rest wellFormed.2 meets.2
    intro m h
    rw [List.mem_cons] at h
    rcases h with rfl | h
    · exact first
    · exact others m h

end

/-- The reader undoes the writer. Of every expression that keeps the rules of nodes, whose functions are known under
the lower-case names that they have, whose offsets are whole minutes, and whose numbers are numbers, the document is read
as the same tree, with the offset of each time in place of its zone. That tree equals the one that was written, unless
a time of it is ambiguous: a text says which offset it has, and a region has two for it. -/
theorem read_toDocument (names : List String) (n : Node) (wellFormed : n.WellFormed)
    (expression : n.isExpression = true) (meets : n.Meets (.readable (names.map Text.lower))) :
    read names n.toDocument = .ok (n.mapTimes .named) ∧
      ((n.mapTimes .named).equal n = true ↔ ∀ t ∈ n.times, t.isAmbiguous = false) := by
  have reads := (readsBack n wellFormed meets).expression expression
  exact ⟨read_eq_ok.2 reads, Node.equal_named_iff meets⟩

/-- A filter with a function call, an interval that is open at its start, and a geometry. -/
def sampleFilter : Node :=
  .and
    [.not (.function "casei" [.property ⟨"title"⟩, .array [.literal (.num (.int 3)), .literal (.str "x")]]),
      .or [.temporal .during ⟨"datetime"⟩ (.interval none (some (.leapNoon ⟨19800000000, by decide⟩ (.fixed none))))],
      .spatial .within ⟨"geometry"⟩ (.geometry ⟨"Point", .tuple [.num (.int 1), .num (.int 2)], none⟩)]

theorem wellFormed_sampleFilter : sampleFilter.WellFormed := by
  simp [sampleFilter, Node.WellFormed, Node.AllWellFormed, Node.isExpression, Shape.Valid, Geometry.Valid,
    Datum.IsFrozen, Datum.AllFrozen]
  decide

theorem meets_sampleFilter : sampleFilter.Meets (.readable (["CaseI"].map Text.lower)) := by
  have lowered : Text.lower "CaseI" = "casei" := by decide
  have settled : Text.lower "casei" = "casei" := by decide
  simp [sampleFilter, Node.Meets, Node.AllMeet, PartRules.readable, lowered, settled, Scalar.Meets, Shape.Meets,
    Geometry.Meets, Datum.Numbers, Datum.AllNumbers, Instant.Meets, Number.IsNan]
  decide

/-- The sample filter comes back from its document. -/
theorem read_toDocument_sampleFilter :
    sampleFilter.WellFormed ∧ sampleFilter.isExpression = true ∧
      sampleFilter.Meets (.readable (["CaseI"].map Text.lower)) ∧
      read ["CaseI"] sampleFilter.toDocument = .ok (sampleFilter.mapTimes .named) ∧
      (sampleFilter.mapTimes .named).equal sampleFilter = true := by
  obtain ⟨read, same⟩ := read_toDocument ["CaseI"] sampleFilter wellFormed_sampleFilter rfl meets_sampleFilter
  exact ⟨wellFormed_sampleFilter, rfl, meets_sampleFilter, read, same.2 (by decide)⟩

/-- A filter for what is later than a time in the hour that a region's clocks go through twice. -/
def nightFilter : Node :=
  .temporal .after ⟨"datetime"⟩ (.timestamp (.autumnNight .newYork))

theorem wellFormed_nightFilter : nightFilter.WellFormed := by
  simp [nightFilter, Node.WellFormed]

theorem meets_nightFilter : nightFilter.Meets (.readable []) := by
  have whole : (OffsetDateTime.autumnNight .newYork).offset.IsWholeMinutes := by decide
  exact whole

theorem named_ne_nightFilter : (nightFilter.mapTimes .named).equal nightFilter = false := by
  refine Bool.eq_false_iff.2 fun same => ?_
  have unambiguous := (Node.equal_named_iff meets_nightFilter).1 same _ List.mem_cons_self
  exact absurd unambiguous (by decide)

/-- What is read from the document of that filter is not equal to it. -/
theorem read_toDocument_nightFilter :
    nightFilter.WellFormed ∧ nightFilter.isExpression = true ∧ nightFilter.Meets (.readable ([].map Text.lower)) ∧
      ∃ back, read [] nightFilter.toDocument = .ok back ∧ back.equal nightFilter = false := by
  have readable : ReadsBack [] nightFilter := readsBack nightFilter wellFormed_nightFilter meets_nightFilter
  exact ⟨wellFormed_nightFilter, rfl, meets_nightFilter, _, read_eq_ok.2 (readable.expression rfl),
    named_ne_nightFilter⟩

end CatalogFilter.Document
