import CatalogFilter.Proofs.Document.Image
import CatalogFilter.Proofs.Document.RoundTrip

/-!
# Documents in canonical form

* `Node.toDocument_named` — the names of offsets leave no trace in a document.
* `Place` — what a value of a document is read as, which decides the members that are looked at.
* `Respelled` — one document in another spelling: operators in other letters, members added or left out that are not
  looked at, null for two points, and times with the same fields written otherwise.
* `Reads.respelled` — a respelled document is read where the first is, as the same tree up to the names of
  offsets.
* `read_canonical` — reading and writing puts a document into a form that reading and writing again keeps, the
  same form for every spelling.
-/

namespace CatalogFilter

/-! ## Names of offsets in documents -/

/-- The name of an offset is no part of a written time. -/
@[simp] theorem OffsetDateTime.text_named (t : OffsetDateTime) : t.named.text = t.text := rfl

/-- Nor of a written end of an interval. -/
@[simp] theorem Document.writeBound_named (bound : Option OffsetDateTime) :
    Document.writeBound (bound.map .named) = Document.writeBound bound := by
  cases bound <;> rfl

namespace Node

mutual

/-- Nor of a written tree. -/
theorem toDocument_named (n : Node) : (n.mapTimes .named).toDocument = n.toDocument := by
  cases n with
  | interval start stop => simp [mapTimes, toDocument, intervalDocument]
  | array elements => rw [mapTimes, toDocument, toDocument, toDocuments_named elements]
  | and children => rw [mapTimes, toDocument, toDocument, toDocuments_named children]
  | or children => rw [mapTimes, toDocument, toDocument, toDocuments_named children]
  | not child => rw [mapTimes, toDocument, toDocument, toDocument_named child]
  | comparison op left right => rw [mapTimes, toDocument, toDocument, toDocument_named right]
  | between subject lower upper =>
    rw [mapTimes, toDocument, toDocument, toDocument_named lower, toDocument_named upper]
  | isIn subject values => rw [mapTimes, toDocument, toDocument, toDocuments_named values]
  | temporal op left right =>
    cases right with
    | interval start stop => simp [mapTimes, toDocument, Instant.mapTimes, Instant.toDocument, intervalDocument]
    | _ => rfl
  | arrayComparison op left right =>
    rw [mapTimes, toDocument, toDocument, toDocument_named left, toDocument_named right]
  | function name args => rw [mapTimes, toDocument, toDocument, toDocuments_named args]
  | _ => rfl

theorem toDocuments_named (ns : List Node) : toDocuments (mapAllTimes .named ns) = toDocuments ns := by
  cases ns with
  | nil => rfl
  | cons n rest => rw [mapAllTimes, toDocuments, toDocuments, toDocument_named n, toDocuments_named rest]

end

end Node

namespace Document

/-! ## Spellings -/

/-- What a value is read as. -/
inductive Place where
  | expression
  | operand
  /-- A list of operands. -/
  | operands
  | property
  | pattern
  | shape
  | instant
  deriving DecidableEq

namespace Place

/-- What an argument of an operator is read as, by its place in the list of arguments. -/
def argument : Operator → Nat → Place
  | .logical _, _ => .expression
  | .array _, _ => .operand
  | _, 0 => .property
  | .comparison _, _ => .operand
  | .advanced .between, _ => .operand
  | .advanced .isIn, _ => .operands
  | .advanced _, _ => .pattern
  | .spatial _, _ => .shape
  | .temporal _, _ => .instant

/-- The same by the name of the operator in lower case. All arguments of functions are operands. -/
def ofArgument (name : String) (i : Nat) : Place :=
  match Operator.ofSymbol? name with
  | some op => argument op i
  | none => .operand

/-- The members that say what an object is, where it may be one thing or another, the deciding one first. -/
def keys : Place → List String
  | .operand => operandKeys
  | .instant => instantKeys
  | _ => []

theorem ofArgument_symbol (op : Operator) (i : Nat) : ofArgument op.symbol i = argument op i := by
  rw [ofArgument, Operator.ofSymbol?_symbol]

theorem ofArgument_function {name : String} (notCore : name ∉ coreOperators) (i : Nat) : ofArgument name i = .operand := by
  rw [mem_coreOperators_iff, Bool.not_eq_true, Option.isSome_eq_false_iff, Option.isNone_iff_eq_none] at notCore
  rw [ofArgument, notCore]

end Place

/-- The place of a value that is a tree by itself. -/
def Position.place : Position → Place
  | .expression => .expression
  | .operand => .operand

/-- Times with the same fields and the same offset, however they are written. -/
inductive SameTime : Datum → Datum → Prop where
  | same (d : Datum) : SameTime d d
  | fields {text text' : String} {t t' : OffsetDateTime} (read : Timestamp.read text = .ok t)
      (read' : Timestamp.read text' = .ok t') (named : t.named = t'.named) : SameTime (.str text) (.str text')

/-- The two ways to leave an end of an interval open. -/
inductive IsOpenBound : Datum → Prop where
  | null : IsOpenBound .null
  | points : IsOpenBound (.str openBound)

/-- Ends of intervals that are both open, or the same time. -/
inductive SameBound : Datum → Datum → Prop where
  | open {d d' : Datum} (first : IsOpenBound d) (second : IsOpenBound d') : SameBound d d'
  | closed {d d' : Datum} (time : SameTime d d') : SameBound d d'

/-- Intervals with the same ends. -/
inductive SameInterval : Datum → Datum → Prop where
  | same (d : Datum) : SameInterval d d
  | bounds {start stop start' stop' : Datum} (lower : SameBound start start') (upper : SameBound stop stop') :
      SameInterval (.list [start, stop]) (.list [start', stop'])

/-- Values of the member that says what an object is: a time or an interval may be spelled in more than one way. -/
inductive SameValue (key : String) : Datum → Datum → Prop where
  | same (d : Datum) : SameValue key d d
  | timestamp {d d' : Datum} (named : key = "timestamp") (time : SameTime d d') : SameValue key d d'
  | interval {d d' : Datum} (named : key = "interval") (ends : SameInterval d d') : SameValue key d d'

/-- Timestamps in other spellings are the same time. -/
theorem SameValue.time {d d' : Datum} (h : SameValue "timestamp" d d') : SameTime d d' := by
  cases h with
  | same => exact .same d
  | timestamp _ time => exact time
  | interval named => exact absurd named (by decide)

/-- Intervals in other spellings have the same ends. -/
theorem SameValue.ends {d d' : Datum} (h : SameValue "interval" d d') : SameInterval d d' := by
  cases h with
  | same => exact .same d
  | timestamp named => exact absurd named (by decide)
  | interval _ ends => exact ends

/-- No other value has two spellings. -/
theorem SameValue.eq {key : String} (plain : key ≠ "timestamp" ∧ key ≠ "interval") {d d' : Datum}
    (h : SameValue key d d') : d = d' := by
  cases h with
  | same => rfl
  | timestamp named => exact absurd named plain.1
  | interval named => exact absurd named plain.2

/-- Members that agree wherever a geometry or a box is looked for. Without a type there are no coordinates to look for. -/
structure SameShape (members members' : Members) : Prop where
  typed : members.lookup "type" = members'.lookup "type"
  boxed : valueOf members "bbox" = valueOf members' "bbox"
  located : has members "type" = true → valueOf members "coordinates" = valueOf members' "coordinates"

/-- A value in another spelling, as what it is read as. Members that are not looked at there may come and go. -/
inductive Respelled : Place → Datum → Datum → Prop where
  | same {place : Place} (d : Datum) : Respelled place d d
  /-- Of an expression, the operator in small letters and the arguments are looked at, each of these as what it is. -/
  | expression {members members' : Members} {op op' : String} {args args' : List Datum}
      (operator : members.lookup "op" = some (.str op)) (operator' : members'.lookup "op" = some (.str op'))
      (letters : Text.lower op = Text.lower op') (listed : members.lookup "args" = some (.list args))
      (listed' : members'.lookup "args" = some (.list args')) (count : args.length = args'.length)
      (each : ∀ i d d', args[i]? = some d → args'[i]? = some d' →
        Respelled (Place.ofArgument (Text.lower op) i) d d') :
      Respelled .expression (.object members) (.object members')
  | list {items items' : List Datum} (count : items.length = items'.length)
      (each : ∀ pair ∈ items.zip items', Respelled .operand pair.1 pair.2) :
      Respelled .operand (.list items) (.list items')
  | nested {members members' : Members} {value value' : Datum}
      (leads : leading? operandKeys members = some ("op", value))
      (leads' : leading? operandKeys members' = some ("op", value'))
      (respelled : Respelled .expression (.object members) (.object members')) :
      Respelled .operand (.object members) (.object members')
  /-- Of an operand or a time that is no more than the value of one member, that value is looked at. -/
  | leading {place : Place} {members members' : Members} {key : String} {value value' : Datum}
      (single : key ≠ "op" ∧ key ≠ "type") (leads : leading? place.keys members = some (key, value))
      (leads' : leading? place.keys members' = some (key, value')) (values : SameValue key value value') :
      Respelled place (.object members) (.object members')
  | geometry {members members' : Members} {value value' : Datum}
      (leads : leading? operandKeys members = some ("type", value))
      (leads' : leading? operandKeys members' = some ("type", value')) (agree : SameShape members members') :
      Respelled .operand (.object members) (.object members')
  | shape {members members' : Members} (agree : SameShape members members') :
      Respelled .shape (.object members) (.object members')
  | property {members members' : Members} (named : members.lookup "property" = members'.lookup "property") :
      Respelled .property (.object members) (.object members')
  | operands {items items' : List Datum} (count : items.length = items'.length)
      (each : ∀ pair ∈ items.zip items', Respelled .operand pair.1 pair.2) :
      Respelled .operands (.list items) (.list items')

variable {functions : List String}

/-- Arguments in another spelling: as many, and each of them respelled as what it is. -/
structure ArgsRespelled (places : Nat → Place) (args args' : List Datum) : Prop where
  count : args.length = args'.length
  each : ∀ i d d', args[i]? = some d → args'[i]? = some d' → Respelled (places i) d d'

namespace ArgsRespelled

variable {places : Nat → Place} {first second third : Datum} {args args' : List Datum}

theorem one (h : ArgsRespelled places [first] args') : ∃ first', args' = [first'] ∧ Respelled (places 0) first first' := by
  match args', h.count with
  | [first'], _ => exact ⟨first', rfl, h.each 0 _ _ rfl rfl⟩

theorem two (h : ArgsRespelled places [first, second] args') :
    ∃ first' second', args' = [first', second'] ∧ Respelled (places 0) first first' ∧
      Respelled (places 1) second second' := by
  match args', h.count with
  | [first', second'], _ => exact ⟨first', second', rfl, h.each 0 _ _ rfl rfl, h.each 1 _ _ rfl rfl⟩

theorem three (h : ArgsRespelled places [first, second, third] args') :
    ∃ first' second' third', args' = [first', second', third'] ∧ Respelled (places 0) first first' ∧
      Respelled (places 1) second second' ∧ Respelled (places 2) third third' := by
  match args', h.count with
  | [first', second', third'], _ =>
    exact ⟨first', second', third', rfl, h.each 0 _ _ rfl rfl, h.each 1 _ _ rfl rfl, h.each 2 _ _ rfl rfl⟩

/-- Arguments that are all read as the same thing. -/
theorem forall₂ {place : Place} (h : ArgsRespelled (fun _ => place) args args') :
    List.Forall₂ (Respelled place) args args' := by
  refine List.forall₂_iff_get.2 ⟨h.count, fun i bound bound' => h.each i _ _ ?_ ?_⟩
  · exact List.getElem?_eq_getElem bound
  · exact List.getElem?_eq_getElem bound'

end ArgsRespelled

/-- The other spellings of a list of operands are such lists, their items respelled. -/
theorem Respelled.of_list {place : Place} (several : place = .operand ∨ place = .operands) {items : List Datum} {d : Datum}
    (h : Respelled place (.list items) d) : ∃ items', d = .list items' ∧ List.Forall₂ (Respelled .operand) items items' := by
  cases h with
  | same => exact ⟨items, rfl, List.forall₂_same.2 fun d _ => .same d⟩
  | list count each => exact ⟨_, rfl, List.forall₂_iff_zip.2 ⟨count, fun h => each _ h⟩⟩
  | operands count each => exact ⟨_, rfl, List.forall₂_iff_zip.2 ⟨count, fun h => each _ h⟩⟩

/-- The other spellings of a frame are frames of the same name, their arguments respelled. -/
theorem HasFrame.respelled {members : Members} {name : String} {args : List Datum} {d : Datum}
    (frame : HasFrame members name args) (h : Respelled .expression (.object members) d) :
    ∃ members' args', d = .object members' ∧ HasFrame members' name args' ∧
      ArgsRespelled (Place.ofArgument name) args args' := by
  cases h with
  | same =>
    refine ⟨members, args, rfl, frame, rfl, fun i d d' found found' => ?_⟩
    rw [found] at found'
    cases found'
    exact .same d
  | expression operator operator' letters listed listed' count each =>
    obtain ⟨op, written, rfl⟩ := frame.operator
    rw [operator] at written
    cases written
    rw [frame.arguments] at listed
    cases listed
    exact ⟨_, _, rfl, ⟨⟨_, operator', letters.symm⟩, listed'⟩, count, each⟩
  | leading _ leads => cases leads

/-- Below an operator of the language, arguments are read as the operator says. -/
theorem HasFrame.respelled_core {members : Members} {args : List Datum} {d : Datum} (op : Operator)
    (frame : HasFrame members op.symbol args) (h : Respelled .expression (.object members) d) :
    ∃ members' args', d = .object members' ∧ HasFrame members' op.symbol args' ∧
      ArgsRespelled (Place.argument op) args args' := by
  obtain ⟨members', args', same, frame', count, each⟩ := frame.respelled h
  refine ⟨members', args', same, frame', count, fun i d d' found found' => ?_⟩
  rw [← Place.ofArgument_symbol op i]
  exact each i d d' found found'

/-- Below a function, they are operands. -/
theorem HasFrame.respelled_function {members : Members} {name : String} {args : List Datum} {d : Datum}
    (notCore : name ∉ coreOperators) (frame : HasFrame members name args) (h : Respelled .expression (.object members) d) :
    ∃ members' args', d = .object members' ∧ HasFrame members' name args' ∧
      List.Forall₂ (Respelled .operand) args args' := by
  obtain ⟨members', args', same, frame', count, each⟩ := frame.respelled h
  refine ⟨members', args', same, frame', ArgsRespelled.forall₂ ⟨count, fun i d d' found found' => ?_⟩⟩
  rw [← Place.ofArgument_function notCore i]
  exact each i d d' found found'

/-! ## Parts -/

/-- A time in another spelling is the same, up to the name of its offset. -/
theorem ReadsTimestamp.respelled {d d' : Datum} {t : OffsetDateTime} (h : ReadsTimestamp d t)
    (same : SameTime d d') :
    ∃ t', ReadsTimestamp d' t' ∧ t'.named = t.named := by
  cases same with
  | same => exact ⟨t, h, rfl⟩
  | fields read read' named =>
    obtain ⟨written⟩ := h
    rw [read] at written
    cases written
    exact ⟨_, .intro read', named.symm⟩

/-- An end that is left open has no time. -/
theorem ReadsBound.eq_none {d : Datum} {bound : Option OffsetDateTime} (h : ReadsBound d bound)
    (isOpen : IsOpenBound d) : bound = none := by
  cases h with
  | null => rfl
  | «open» => rfl
  | closed reads =>
    cases isOpen with
    | null => cases reads
    | points => exact absurd reads not_readsTimestamp_openBound

/-- An end of an interval in another spelling is the same. -/
theorem ReadsBound.respelled {d d' : Datum} {bound : Option OffsetDateTime} (h : ReadsBound d bound)
    (same : SameBound d d') :
    ∃ bound', ReadsBound d' bound' ∧ bound'.map OffsetDateTime.named = bound.map OffsetDateTime.named := by
  cases same with
  | «open» first second =>
    rw [h.eq_none first]
    cases second with
    | null => exact ⟨none, .null, rfl⟩
    | points => exact ⟨none, .open, rfl⟩
  | closed time =>
    cases h with
    | null =>
      cases time
      exact ⟨none, .null, rfl⟩
    | «open» =>
      cases time with
      | same => exact ⟨none, .open, rfl⟩
      | fields read _ _ => exact absurd (.intro read) not_readsTimestamp_openBound
    | closed reads =>
      obtain ⟨t', reads', named⟩ := reads.respelled time
      exact ⟨some t', .closed reads', congrArg some named⟩

/-- An interval in another spelling is the same. -/
theorem ReadsInterval.respelled {d d' : Datum} {start stop : Option OffsetDateTime} (h : ReadsInterval d start stop)
    (same : SameInterval d d') :
    ∃ start' stop', ReadsInterval d' start' stop' ∧
      start'.map OffsetDateTime.named = start.map OffsetDateTime.named ∧
        stop'.map OffsetDateTime.named = stop.map OffsetDateTime.named := by
  cases same with
  | same => exact ⟨start, stop, h, rfl, rfl⟩
  | bounds lower upper =>
    cases h with
    | intro readsLower readsUpper =>
      obtain ⟨start', reads, sameStart⟩ := readsLower.respelled lower
      obtain ⟨stop', reads', sameStop⟩ := readsUpper.respelled upper
      exact ⟨start', stop', .intro reads reads', sameStart, sameStop⟩

/-- A property in another spelling is the same. -/
theorem ReadsProperty.respelled {d d' : Datum} {p : Property} (h : ReadsProperty d p)
    (same : Respelled .property d d') : ReadsProperty d' p := by
  cases same with
  | same => exact h
  | property agree =>
    obtain ⟨named, notEmpty⟩ := h
    rw [agree] at named
    exact .intro named notEmpty
  | leading _ leads => cases leads

/-- A value that is not null is that of a member. -/
theorem lookup_of_valueOf {members : Members} {name : String} {value : Datum} (found : valueOf members name = value)
    (notNull : value ≠ .null) : members.lookup name = some value := by
  unfold valueOf at found
  cases looked : members.lookup name with
  | none =>
    rw [looked] at found
    exact absurd found.symm notNull
  | some other =>
    rw [looked] at found
    exact congrArg some found

/-- A geometry in another spelling is the same. -/
theorem ReadsGeometry.respelled {members members' : Members} {g : Geometry} (h : ReadsGeometry (.object members) g)
    (agree : SameShape members members') : ReadsGeometry (.object members') g := by
  have typed := has_type_of_readsGeometry h
  obtain ⟨named, notEmpty, located, frozen, boxed⟩ := h
  have types : valueOf members "type" = valueOf members' "type" := by rw [valueOf, valueOf, agree.typed]
  rw [types] at named
  rw [agree.located typed] at located frozen
  rw [agree.boxed] at boxed
  exact .intro named notEmpty located frozen boxed

/-- A shape in another spelling is the same. -/
theorem ReadsShape.respelled {d d' : Datum} {s : Shape} (h : ReadsShape d s) (same : Respelled .shape d d') :
    ReadsShape d' s := by
  cases same with
  | same => exact h
  | shape agree =>
    cases h with
    | bbox untyped found box =>
      have boxed := (valueOf_of_lookup found).symm.trans agree.boxed
      refine .bbox (agree.typed.symm.trans untyped) (lookup_of_valueOf boxed.symm ?_) box
      rintro rfl
      cases box
    | geometry reads => exact .geometry (reads.respelled agree)
  | leading _ leads => cases leads

/-- An instant in another spelling is the same, up to the names of offsets. -/
theorem ReadsInstant.respelled {d d' : Datum} {t : Instant} (h : ReadsInstant d t) (same : Respelled .instant d d') :
    ∃ t', ReadsInstant d' t' ∧ t'.mapTimes .named = t.mapTimes .named := by
  cases same with
  | same => exact ⟨t, h, rfl⟩
  | leading _ first leads' values =>
    cases h with
    | interval leads reads =>
      cases first.symm.trans leads
      obtain ⟨start', stop', reads', sameStart, sameStop⟩ := reads.respelled values.ends
      refine ⟨.interval start' stop', .interval leads' reads', ?_⟩
      rw [Instant.mapTimes, Instant.mapTimes, sameStart, sameStop]
    | timestamp leads reads =>
      cases first.symm.trans leads
      obtain ⟨t', reads', named⟩ := reads.respelled values.time
      exact ⟨.timestamp t', .timestamp leads' reads', congrArg Instant.timestamp named⟩
    | date leads reads =>
      cases first.symm.trans leads
      obtain rfl := values.eq (by decide)
      exact ⟨_, .date leads' reads, rfl⟩

/-! ## Trees -/

/-- A value in another spelling stands for the same tree, up to the names of offsets. -/
def ReadsRespelled (functions : List String) (position : Position) (d : Datum) (n : Node) : Prop :=
  ∀ d', Respelled position.place d d' → ∃ n', Reads functions position d' n' ∧ n'.mapTimes .named = n.mapTimes .named

/-- Values in other spellings stand together for the same trees. -/
theorem exists_zip_respelled (position : Position) {args args' : List Datum} {ns : List Node}
    (respelled : List.Forall₂ (Respelled position.place) args args') (count : args.length = ns.length)
    (each : ∀ pair ∈ args.zip ns, ReadsRespelled functions position pair.1 pair.2) :
    ∃ ns', args'.length = ns'.length ∧ (∀ pair ∈ args'.zip ns', Reads functions position pair.1 pair.2) ∧
      Node.mapAllTimes .named ns' = Node.mapAllTimes .named ns := by
  induction respelled generalizing ns with
  | nil =>
    cases ns with
    | nil => exact ⟨[], rfl, nofun, rfl⟩
    | cons n rest => cases count
  | cons same _ ih =>
    cases ns with
    | nil => cases count
    | cons n rest =>
      rw [List.zip_cons_cons] at each
      obtain ⟨n', reads, named⟩ := each _ List.mem_cons_self _ same
      obtain ⟨rest', count', others, allNamed⟩ :=
        ih (Nat.succ.inj count) fun pair h => each pair (List.mem_cons_of_mem _ h)
      refine ⟨n' :: rest', congrArg Nat.succ count', fun pair h => ?_, ?_⟩
      · rw [List.zip_cons_cons, List.mem_cons] at h
        rcases h with rfl | h
        · exact reads
        · exact others pair h
      · rw [Node.mapAllTimes, Node.mapAllTimes, named, allNamed]

/-- Whether a tree may be a side of an array relation does not depend on the names of offsets. -/
theorem isArraySide_of_named {n n' : Node} (named : n'.mapTimes .named = n.mapTimes .named) :
    n'.isArraySide = n.isArraySide := by
  rw [← Node.isArraySide_mapTimes .named n', named, Node.isArraySide_mapTimes]

/-- One member at most leads. -/
theorem leading?_unique {keys : List String} {members : Members} {key key' : String} {value value' : Datum}
    (leads : leading? keys members = some (key, value)) (leads' : leading? keys members = some (key', value')) :
    key = key' :=
  congrArg Prod.fst (Option.some.inj (leads.symm.trans leads'))

/-- An object that is read as an operand by one member is so in every other spelling, and by that member. -/
theorem Respelled.of_leading {members : Members} {key : String} {value d : Datum}
    (single : key ≠ "op" ∧ key ≠ "type") (leads : leading? operandKeys members = some (key, value))
    (h : Respelled .operand (.object members) d) :
    ∃ members' value', d = .object members' ∧ leading? operandKeys members' = some (key, value') ∧
      SameValue key value value' := by
  cases h with
  | same => exact ⟨members, value, rfl, leads, .same value⟩
  | nested first => exact absurd (leading?_unique leads first) single.1
  | geometry first => exact absurd (leading?_unique leads first) single.2
  | leading _ first leads' values =>
    cases leads.symm.trans first
    exact ⟨_, _, rfl, leads', values⟩

/-- Every document that is read is read as the same tree in every other spelling, up to the names of offsets. -/
theorem Reads.respelled {position : Position} {d : Datum} {n : Node} (h : Reads functions position d n) :
    ReadsRespelled functions position d n := by
  induction h with
  | and frame count _ each =>
    intro d' same
    obtain ⟨members', args', rfl, frame', respelled⟩ := HasFrame.respelled_core (.logical .and) frame same
    obtain ⟨children', count', reads, named⟩ := exists_zip_respelled .expression respelled.forall₂ count each
    exact ⟨.and children', .and frame' count' reads, congrArg Node.and named⟩
  | or frame count _ each =>
    intro d' same
    obtain ⟨members', args', rfl, frame', respelled⟩ := HasFrame.respelled_core (.logical .or) frame same
    obtain ⟨children', count', reads, named⟩ := exists_zip_respelled .expression respelled.forall₂ count each
    exact ⟨.or children', .or frame' count' reads, congrArg Node.or named⟩
  | not frame _ child =>
    intro d' same
    obtain ⟨members', args', rfl, frame', respelled⟩ := HasFrame.respelled_core (.logical .not) frame same
    obtain ⟨arg', rfl, sameArg⟩ := respelled.one
    obtain ⟨child', reads, named⟩ := child _ sameArg
    exact ⟨.not child', .not frame' reads, congrArg Node.not named⟩
  | @comparison _ op _ _ p _ frame tested _ operand =>
    intro d' same
    obtain ⟨members', args', rfl, frame', respelled⟩ := HasFrame.respelled_core (.comparison op) frame same
    obtain ⟨left', right', rfl, sameLeft, sameRight⟩ := respelled.two
    obtain ⟨n', reads, named⟩ := operand _ sameRight
    exact ⟨_, .comparison frame' (tested.respelled sameLeft) reads, congrArg (Node.comparison op p) named⟩
  | @between _ _ _ _ p _ _ frame tested _ _ low high =>
    intro d' same
    obtain ⟨members', args', rfl, frame', respelled⟩ := HasFrame.respelled_core (.advanced .between) frame same
    obtain ⟨subject', low', high', rfl, sameSubject, sameLow, sameHigh⟩ := respelled.three
    obtain ⟨lower', readsLower, namedLower⟩ := low _ sameLow
    obtain ⟨upper', readsUpper, namedUpper⟩ := high _ sameHigh
    refine ⟨_, .between frame' (tested.respelled sameSubject) readsLower readsUpper, ?_⟩
    rw [Node.mapTimes, Node.mapTimes, namedLower, namedUpper]
  | like frame tested =>
    intro d' same
    obtain ⟨members', args', rfl, frame', respelled⟩ := HasFrame.respelled_core (.advanced .like) frame same
    obtain ⟨subject', pattern', rfl, sameSubject, samePattern⟩ := respelled.two
    cases samePattern
    exact ⟨_, .like frame' (tested.respelled sameSubject), rfl⟩
  | @isIn _ _ _ p _ frame tested count _ each =>
    intro d' same
    obtain ⟨members', args', rfl, frame', respelled⟩ := HasFrame.respelled_core (.advanced .isIn) frame same
    obtain ⟨subject', values, rfl, sameSubject, sameValues⟩ := respelled.two
    obtain ⟨values', rfl, sameEach⟩ := sameValues.of_list (.inr rfl)
    obtain ⟨ns', count', reads, named⟩ := exists_zip_respelled .operand sameEach count each
    exact ⟨_, .isIn frame' (tested.respelled sameSubject) count' reads, congrArg (Node.isIn p) named⟩
  | isNull frame tested =>
    intro d' same
    obtain ⟨members', args', rfl, frame', respelled⟩ := HasFrame.respelled_core (.advanced .isNull) frame same
    obtain ⟨subject', rfl, sameSubject⟩ := respelled.one
    exact ⟨_, .isNull frame' (tested.respelled sameSubject), rfl⟩
  | @spatial _ op _ _ _ _ frame tested shape =>
    intro d' same
    obtain ⟨members', args', rfl, frame', respelled⟩ := HasFrame.respelled_core (.spatial op) frame same
    obtain ⟨left', right', rfl, sameLeft, sameRight⟩ := respelled.two
    exact ⟨_, .spatial frame' (tested.respelled sameLeft) (shape.respelled sameRight), rfl⟩
  | @temporal _ op _ _ p _ frame tested instant =>
    intro d' same
    obtain ⟨members', args', rfl, frame', respelled⟩ := HasFrame.respelled_core (.temporal op) frame same
    obtain ⟨left', right', rfl, sameLeft, sameRight⟩ := respelled.two
    obtain ⟨t', instant', named⟩ := instant.respelled sameRight
    exact ⟨_, .temporal frame' (tested.respelled sameLeft) instant', congrArg (Node.temporal op p) named⟩
  | @array _ op _ _ _ _ frame _ leftSide _ rightSide first second =>
    intro d' same
    obtain ⟨members', args', rfl, frame', respelled⟩ := HasFrame.respelled_core (.array op) frame same
    obtain ⟨first', second', rfl, sameFirst, sameSecond⟩ := respelled.two
    obtain ⟨left', readsLeft, namedLeft⟩ := first _ sameFirst
    obtain ⟨right', readsRight, namedRight⟩ := second _ sameSecond
    rw [← isArraySide_of_named namedLeft] at leftSide
    rw [← isArraySide_of_named namedRight] at rightSide
    refine ⟨_, .array frame' readsLeft leftSide readsRight rightSide, ?_⟩
    rw [Node.mapTimes, Node.mapTimes, namedLeft, namedRight]
  | @function _ name _ _ frame notEmpty notCore known count _ each =>
    intro d' same
    obtain ⟨members', args', rfl, frame', respelled⟩ := frame.respelled_function notCore same
    obtain ⟨ns', count', reads, named⟩ := exists_zip_respelled .operand respelled count each
    exact ⟨_, .function frame' notEmpty notCore known count' reads, congrArg (Node.function name) named⟩
  | bool b =>
    intro d' same
    cases same
    exact ⟨_, .bool b, rfl⟩
  | num v =>
    intro d' same
    cases same
    exact ⟨_, .num v, rfl⟩
  | str s =>
    intro d' same
    cases same
    exact ⟨_, .str s, rfl⟩
  | list count _ each =>
    intro d' same
    obtain ⟨items', rfl, sameEach⟩ := same.of_list (.inl rfl)
    obtain ⟨ns', count', reads, named⟩ := exists_zip_respelled .operand sameEach count each
    exact ⟨_, .list count' reads, congrArg Node.array named⟩
  | property leads notEmpty =>
    intro d' same
    obtain ⟨members', value', rfl, leads', values⟩ := same.of_leading (by decide) leads
    obtain rfl := values.eq (by decide)
    exact ⟨_, .property leads' notEmpty, rfl⟩
  | expression leads reads nested =>
    intro d' same
    cases same with
    | same => exact ⟨_, .expression leads reads, rfl⟩
    | nested _ leads' respelled =>
      obtain ⟨n', reads', named⟩ := nested _ respelled
      exact ⟨n', .expression leads' reads', named⟩
    | leading single first => exact absurd (leading?_unique first leads) single.1
    | geometry first => exact absurd (leading?_unique leads first) (by decide)
  | timestamp leads time =>
    intro d' same
    obtain ⟨members', value', rfl, leads', values⟩ := same.of_leading (by decide) leads
    obtain ⟨t', time', named⟩ := time.respelled values.time
    exact ⟨_, .timestamp leads' time', congrArg Node.timestamp named⟩
  | date leads day =>
    intro d' same
    obtain ⟨members', value', rfl, leads', values⟩ := same.of_leading (by decide) leads
    obtain rfl := values.eq (by decide)
    exact ⟨_, .date leads' day, rfl⟩
  | interval leads bounds =>
    intro d' same
    obtain ⟨members', value', rfl, leads', values⟩ := same.of_leading (by decide) leads
    obtain ⟨start', stop', bounds', sameStart, sameStop⟩ := bounds.respelled values.ends
    refine ⟨_, .interval leads' bounds', ?_⟩
    rw [Node.mapTimes, Node.mapTimes, sameStart, sameStop]
  | geometry leads shape =>
    intro d' same
    cases same with
    | same => exact ⟨_, .geometry leads shape, rfl⟩
    | nested first => exact absurd (leading?_unique leads first) (by decide)
    | leading single first => exact absurd (leading?_unique first leads) single.2
    | geometry _ leads' agree => exact ⟨_, .geometry leads' (shape.respelled agree), rfl⟩
  | bbox leads box =>
    intro d' same
    obtain ⟨members', value', rfl, leads', values⟩ := same.of_leading (by decide) leads
    obtain rfl := values.eq (by decide)
    exact ⟨_, .bbox leads' box, rfl⟩

/-- Reading and writing is a normal form of documents. The tree of a document keeps all rules that trees need to
be read back; what it is written as is read as an equal tree and written the same again; and every other spelling
of the document is written the same. -/
theorem read_canonical (names : List String) (document : Datum) (n : Node) (plain : document.NanFree)
    (succeeds : read names document = .ok n) :
    (n.WellFormed ∧ n.isExpression = true ∧ n.Meets (.readable (names.map Text.lower)) ∧ ∀ t ∈ n.times, t.IsFixed) ∧
      (∃ m, read names n.toDocument = .ok m ∧ m.equal n = true ∧ m.toDocument = n.toDocument) ∧
      ∀ other, Respelled .expression document other →
        ∃ m, read names other = .ok m ∧ m.toDocument = n.toDocument := by
  have reads := read_eq_ok.1 succeeds
  have wellFormed := reads.wellFormed
  have meets := reads.meets plain
  have fixed := reads.isFixed
  refine ⟨⟨wellFormed, reads.isExpression, meets, fixed⟩, ?_, fun other same => ?_⟩
  · have back := (readsBack n wellFormed meets).expression reads.isExpression
    have equal := (Node.equal_named_iff meets).2 fun t member => (fixed t member).isAmbiguous
    exact ⟨n.mapTimes .named, read_eq_ok.2 back, equal, n.toDocument_named⟩
  · obtain ⟨m, readsOther, named⟩ := reads.respelled other same
    refine ⟨m, read_eq_ok.2 readsOther, ?_⟩
    rw [← m.toDocument_named, named, n.toDocument_named]

/-- A document with capitals, a member of no meaning, an open end and a time in small letters. -/
def sampleDocument : Datum :=
  .object
    [("op", .str "AND"),
      ("args", .list
        [.object
          [("op", .str "t_During"), ("comment", .null),
            ("args", .list
              [.object [("property", .str "datetime")],
                .object [("interval", .list [.null, .str "2024-02-29t12:00:00.5z"])]])]])]

/-- The tree of the sample document. -/
def sampleTree : Node :=
  .and [.temporal .during ⟨"datetime"⟩ (.interval none (some (.leapNoon .utc (.fixed none))))]

/-- The sample document in another spelling, with members that would have a meaning in other places. -/
def respelledDocument : Datum :=
  .object
    [("op", .str "and"), ("property", .str "title"),
      ("args", .list
        [.object
          [("op", .str "T_DURING"),
            ("args", .list
              [.object [("property", .str "datetime"), ("type", .str "Point")],
                .object [("date", .null), ("interval", .list [.str "..", .str "2024-02-29T12:00:00.500+00:00"])]])]])]

/-- Its operators, its open end and its time are the same. -/
theorem respelled_sampleDocument : Respelled .expression sampleDocument respelledDocument := by
  have read : Timestamp.read "2024-02-29t12:00:00.5z" = .ok (.leapNoon .utc (.fixed none)) := by cbv
  have read' : Timestamp.read "2024-02-29T12:00:00.500+00:00" = .ok (.leapNoon .utc (.fixed (some "+00:00"))) := by cbv
  have bounds := SameInterval.bounds (.open .null .points) (.closed (.fields read read' rfl))
  have predicate : Place.ofArgument (Text.lower "AND") 0 = .expression := by decide
  have subject : Place.ofArgument (Text.lower "t_During") 0 = .property := by decide
  have time : Place.ofArgument (Text.lower "t_During") 1 = .instant := by decide
  refine .expression rfl rfl (by decide) rfl rfl rfl fun i d d' found found' => ?_
  cases i with
  | zero =>
    cases found
    cases found'
    rw [predicate]
    refine .expression rfl rfl (by decide) rfl rfl rfl fun i d d' found found' => ?_
    rcases i with _ | _ | i
    · cases found
      cases found'
      rw [subject]
      exact .property rfl
    · cases found
      cases found'
      rw [time]
      exact .leading (by decide) rfl rfl (.interval rfl bounds)
    · cases found
  | succ i => cases found

/-- The sample document comes to one form in both spellings. -/
theorem read_canonical_sampleDocument :
    sampleDocument.NanFree ∧ read [] sampleDocument = .ok sampleTree ∧
      (sampleTree.WellFormed ∧ sampleTree.isExpression = true ∧ sampleTree.Meets (.readable ([].map Text.lower)) ∧
        ∀ t ∈ sampleTree.times, t.IsFixed) ∧
      (∃ m, read [] sampleTree.toDocument = .ok m ∧ m.equal sampleTree = true ∧
        m.toDocument = sampleTree.toDocument) ∧
      ∃ m, read [] respelledDocument = .ok m ∧ m.toDocument = sampleTree.toDocument := by
  have plain : sampleDocument.NanFree := by
    simp [sampleDocument, Datum.Numbers, Datum.AllNumbers, Datum.MemberNumbers]
  have succeeds : read [] sampleDocument = .ok sampleTree := by cbv
  obtain ⟨rules, back, spellings⟩ := read_canonical [] sampleDocument sampleTree plain succeeds
  exact ⟨plain, succeeds, rules, back, spellings respelledDocument respelled_sampleDocument⟩

end Document

end CatalogFilter
