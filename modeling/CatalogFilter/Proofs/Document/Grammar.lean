import CatalogFilter.Proofs.Document.Reading

/-!
# The grammar of filter documents

* `IsProperty`, `IsGeometry`, `IsBox`, `IsInterval`, `IsInstant` — the parts that hold no expressions.
* `Accepted` — the grammar itself: which values are expressions and which are operands.
* `Reads.accepted`, `Accepted.exists_reads` — a value has a tree exactly when the grammar accepts it.
* `exists_read_iff_accepted` — the same of whole documents and the reader.

The grammar speaks of values alone; no tree occurs in it. In this it differs from `Reads`, and the checks that
the reader leaves to the constructors of trees are written out here as conditions on values.
-/

namespace CatalogFilter.Document

/-! ## Parts -/

/-- A property: an object whose member `property` is a text that is not empty. -/
inductive IsProperty : Datum → Prop where
  | intro {members : Members} {name : String} (named : members.lookup "property" = some (.str name))
      (notEmpty : name ≠ "") : IsProperty (.object members)

/-- A number and nothing else; truth values are none. -/
inductive IsNumber : Datum → Prop where
  | intro (n : Number) : IsNumber (.num n)

/-- A box: a list of four or six numbers. -/
inductive IsBox : Datum → Prop where
  | intro {items : List Datum} (count : items.length = 4 ∨ items.length = 6) (numbers : ∀ d ∈ items, IsNumber d) :
      IsBox (.list items)

/-- A geometry's own box: null, or a list or tuple of an even number of numbers, at least four. -/
inductive IsOwnBox : Datum → Prop where
  | none : IsOwnBox .null
  | list {items : List Datum} (count : 4 ≤ items.length ∧ items.length % 2 = 0)
      (numbers : ∀ d ∈ items, IsNumber d) : IsOwnBox (.list items)
  | tuple {items : List Datum} (count : 4 ≤ items.length ∧ items.length % 2 = 0)
      (numbers : ∀ d ∈ items, IsNumber d) : IsOwnBox (.tuple items)

/-- A geometry: an object with a type, coordinates, and a box of its own or none. -/
inductive IsGeometry : Datum → Prop where
  | intro {members : Members} {type : String} (typed : valueOf members "type" = .str type) (notEmpty : type ≠ "")
      (located : valueOf members "coordinates" ≠ .null) (boxed : IsOwnBox (valueOf members "bbox")) :
      IsGeometry (.object members)

/-- The right side of a spatial relation: an object with `bbox` and no `type`, or a geometry. -/
inductive IsShape : Datum → Prop where
  | bbox {members : Members} {value : Datum} (untyped : members.lookup "type" = none)
      (found : members.lookup "bbox" = some value) (box : IsBox value) : IsShape (.object members)
  | geometry {d : Datum} (geometry : IsGeometry d) : IsShape d

/-- A text with the form of a timestamp, all fields in their ranges. -/
inductive IsTimestamp : Datum → Prop where
  | intro {text : String} {t : OffsetDateTime} (read : Timestamp.read text = .ok t) : IsTimestamp (.str text)

/-- A text of ten characters that is a date. -/
inductive IsDate : Datum → Prop where
  | intro {text : String} {d : Date} (length : text.length = 10) (read : Date.read text = .ok d) : IsDate (.str text)

/-- One end of an interval: null, two points, or a timestamp. -/
inductive IsBound : Datum → Prop where
  | null : IsBound .null
  | open : IsBound (.str openBound)
  | closed {d : Datum} (timestamp : IsTimestamp d) : IsBound d

/-- An interval: a list of two ends. -/
inductive IsInterval : Datum → Prop where
  | intro {start stop : Datum} (lower : IsBound start) (upper : IsBound stop) : IsInterval (.list [start, stop])

/-- The right side of a temporal relation: an object read by its first member for a time. -/
inductive IsInstant : Datum → Prop where
  | interval {members : Members} {value : Datum} (leads : leading? instantKeys members = some ("interval", value))
      (interval : IsInterval value) : IsInstant (.object members)
  | timestamp {members : Members} {value : Datum} (leads : leading? instantKeys members = some ("timestamp", value))
      (timestamp : IsTimestamp value) : IsInstant (.object members)
  | date {members : Members} {value : Datum} (leads : leading? instantKeys members = some ("date", value))
      (date : IsDate value) : IsInstant (.object members)

/-- A value with the form of an array relation's side: a list, a property or a function call. -/
inductive HasArrayForm : Datum → Prop where
  | list {items : List Datum} : HasArrayForm (.list items)
  | property {members : Members} {value : Datum}
      (leads : leading? operandKeys members = some ("property", value)) : HasArrayForm (.object members)
  | function {members : Members} {value : Datum} {name : String} {args : List Datum}
      (leads : leading? operandKeys members = some ("op", value)) (frame : HasFrame members name args)
      (notCore : name ∉ coreOperators) : HasArrayForm (.object members)

/-! ## Expressions and operands -/

/-- The grammar: the values that are expressions, and the values that are operands. -/
inductive Accepted (functions : List String) : Position → Datum → Prop where
  | and {members : Members} {args : List Datum} (frame : HasFrame members "and" args)
      (each : ∀ d ∈ args, Accepted functions .expression d) : Accepted functions .expression (.object members)
  | or {members : Members} {args : List Datum} (frame : HasFrame members "or" args)
      (each : ∀ d ∈ args, Accepted functions .expression d) : Accepted functions .expression (.object members)
  | not {members : Members} {arg : Datum} (frame : HasFrame members "not" [arg])
      (child : Accepted functions .expression arg) : Accepted functions .expression (.object members)
  | comparison {members : Members} {op : ComparisonOp} {left right : Datum}
      (frame : HasFrame members op.symbol [left, right]) (tested : IsProperty left)
      (operand : Accepted functions .operand right) : Accepted functions .expression (.object members)
  | between {members : Members} {subject lower upper : Datum}
      (frame : HasFrame members "between" [subject, lower, upper]) (tested : IsProperty subject)
      (low : Accepted functions .operand lower) (high : Accepted functions .operand upper) :
      Accepted functions .expression (.object members)
  | like {members : Members} {subject : Datum} {pattern : String}
      (frame : HasFrame members "like" [subject, .str pattern]) (tested : IsProperty subject) :
      Accepted functions .expression (.object members)
  | isIn {members : Members} {subject : Datum} {values : List Datum}
      (frame : HasFrame members "in" [subject, .list values]) (tested : IsProperty subject)
      (each : ∀ d ∈ values, Accepted functions .operand d) : Accepted functions .expression (.object members)
  | isNull {members : Members} {subject : Datum} (frame : HasFrame members "isnull" [subject])
      (tested : IsProperty subject) : Accepted functions .expression (.object members)
  | spatial {members : Members} {op : SpatialOp} {left right : Datum}
      (frame : HasFrame members op.symbol [left, right]) (tested : IsProperty left) (shape : IsShape right) :
      Accepted functions .expression (.object members)
  | temporal {members : Members} {op : TemporalOp} {left right : Datum}
      (frame : HasFrame members op.symbol [left, right]) (tested : IsProperty left) (instant : IsInstant right) :
      Accepted functions .expression (.object members)
  | array {members : Members} {op : ArrayOp} {left right : Datum} (frame : HasFrame members op.symbol [left, right])
      (first : Accepted functions .operand left) (leftForm : HasArrayForm left)
      (second : Accepted functions .operand right) (rightForm : HasArrayForm right) :
      Accepted functions .expression (.object members)
  | function {members : Members} {name : String} {args : List Datum} (frame : HasFrame members name args)
      (notEmpty : name ≠ "") (notCore : name ∉ coreOperators) (known : name ∈ functions)
      (each : ∀ d ∈ args, Accepted functions .operand d) : Accepted functions .expression (.object members)
  | bool (b : Bool) : Accepted functions .operand (.bool b)
  | num (n : Number) : Accepted functions .operand (.num n)
  | str (s : String) : Accepted functions .operand (.str s)
  | list {items : List Datum} (each : ∀ d ∈ items, Accepted functions .operand d) :
      Accepted functions .operand (.list items)
  | property {members : Members} {name : String}
      (leads : leading? operandKeys members = some ("property", .str name)) (notEmpty : name ≠ "") :
      Accepted functions .operand (.object members)
  | expression {members : Members} {value : Datum} (leads : leading? operandKeys members = some ("op", value))
      (expression : Accepted functions .expression (.object members)) : Accepted functions .operand (.object members)
  | timestamp {members : Members} {value : Datum} (leads : leading? operandKeys members = some ("timestamp", value))
      (timestamp : IsTimestamp value) : Accepted functions .operand (.object members)
  | date {members : Members} {value : Datum} (leads : leading? operandKeys members = some ("date", value))
      (date : IsDate value) : Accepted functions .operand (.object members)
  | interval {members : Members} {value : Datum} (leads : leading? operandKeys members = some ("interval", value))
      (interval : IsInterval value) : Accepted functions .operand (.object members)
  | geometry {members : Members} {value : Datum} (leads : leading? operandKeys members = some ("type", value))
      (geometry : IsGeometry (.object members)) : Accepted functions .operand (.object members)
  | bbox {members : Members} {value : Datum} (leads : leading? operandKeys members = some ("bbox", value))
      (box : IsBox value) : Accepted functions .operand (.object members)

/-! ## Parts and what they are read as -/

theorem isProperty_iff {d : Datum} : IsProperty d ↔ ∃ p, ReadsProperty d p := by
  constructor
  · rintro ⟨named, notEmpty⟩
    exact ⟨⟨_⟩, .intro named notEmpty⟩
  · rintro ⟨p, named, notEmpty⟩
    exact .intro named notEmpty

/-- Values that are all numbers are the values of a list of numbers. -/
theorem forall_isNumber_iff {items : List Datum} :
    (∀ d ∈ items, IsNumber d) ↔ ∃ ns : List Number, items = ns.map .num := by
  constructor
  · intro numbers
    induction items with
    | nil => exact ⟨[], rfl⟩
    | cons d rest ih =>
      obtain ⟨ns, rfl⟩ := ih fun d h => numbers d (List.mem_cons_of_mem _ h)
      obtain ⟨n⟩ := numbers d List.mem_cons_self
      exact ⟨n :: ns, rfl⟩
  · rintro ⟨ns, rfl⟩ d h
    obtain ⟨n, -, rfl⟩ := List.mem_map.1 h
    exact .intro n

theorem isBox_iff {d : Datum} : IsBox d ↔ ∃ extent, ReadsBox d extent := by
  constructor
  · rintro ⟨count, numbers⟩
    obtain ⟨ns, rfl⟩ := forall_isNumber_iff.1 numbers
    rw [List.length_map] at count
    exact ⟨ns, .intro rfl count⟩
  · rintro ⟨extent, rfl, count⟩
    rw [← List.length_map (f := Data.num)] at count
    exact .intro count (forall_isNumber_iff.2 ⟨extent, rfl⟩)

theorem isOwnBox_iff {d : Datum} : IsOwnBox d ↔ ∃ box, ReadsOwnBox d box := by
  constructor
  · intro h
    cases h with
    | none => exact ⟨none, .none⟩
    | list count numbers =>
      obtain ⟨ns, rfl⟩ := forall_isNumber_iff.1 numbers
      rw [List.length_map] at count
      exact ⟨some ns, .list rfl count⟩
    | tuple count numbers =>
      obtain ⟨ns, rfl⟩ := forall_isNumber_iff.1 numbers
      rw [List.length_map] at count
      exact ⟨some ns, .tuple rfl count⟩
  · rintro ⟨box, h⟩
    cases h with
    | none => exact .none
    | @list _ extent numbers count =>
      subst numbers
      rw [← List.length_map (f := Data.num)] at count
      exact .list count (forall_isNumber_iff.2 ⟨extent, rfl⟩)
    | @tuple _ extent numbers count =>
      subst numbers
      rw [← List.length_map (f := Data.num)] at count
      exact .tuple count (forall_isNumber_iff.2 ⟨extent, rfl⟩)

theorem isGeometry_iff {d : Datum} : IsGeometry d ↔ ∃ g, ReadsGeometry d g := by
  constructor
  · rintro ⟨typed, notEmpty, located, boxed⟩
    obtain ⟨box, boxed⟩ := isOwnBox_iff.1 boxed
    exact ⟨⟨_, _, box⟩, .intro typed notEmpty located rfl boxed⟩
  · rintro ⟨g, typed, notEmpty, located, -, boxed⟩
    exact .intro typed notEmpty located (isOwnBox_iff.2 ⟨_, boxed⟩)

theorem isShape_iff {d : Datum} : IsShape d ↔ ∃ s, ReadsShape d s := by
  constructor
  · intro h
    cases h with
    | bbox untyped found box =>
      obtain ⟨extent, box⟩ := isBox_iff.1 box
      exact ⟨_, .bbox untyped found box⟩
    | geometry geometry =>
      obtain ⟨g, geometry⟩ := isGeometry_iff.1 geometry
      exact ⟨_, .geometry geometry⟩
  · rintro ⟨s, h⟩
    cases h with
    | bbox untyped found box => exact .bbox untyped found (isBox_iff.2 ⟨_, box⟩)
    | geometry geometry => exact .geometry (isGeometry_iff.2 ⟨_, geometry⟩)

theorem isTimestamp_iff {d : Datum} : IsTimestamp d ↔ ∃ t, ReadsTimestamp d t := by
  constructor
  · rintro ⟨read⟩
    exact ⟨_, .intro read⟩
  · rintro ⟨t, ⟨read⟩⟩
    exact .intro read

theorem isDate_iff {d : Datum} : IsDate d ↔ ∃ day, ReadsDate d day := by
  constructor
  · rintro ⟨length, read⟩
    exact ⟨_, .intro length read⟩
  · rintro ⟨day, length, read⟩
    exact .intro length read

theorem isBound_iff {d : Datum} : IsBound d ↔ ∃ bound, ReadsBound d bound := by
  constructor
  · intro h
    cases h with
    | null => exact ⟨none, .null⟩
    | «open» => exact ⟨none, .open⟩
    | closed timestamp =>
      obtain ⟨t, reads⟩ := isTimestamp_iff.1 timestamp
      exact ⟨some t, .closed reads⟩
  · rintro ⟨bound, h⟩
    cases h with
    | null => exact .null
    | «open» => exact .open
    | closed reads => exact .closed (isTimestamp_iff.2 ⟨_, reads⟩)

theorem isInterval_iff {d : Datum} : IsInterval d ↔ ∃ start stop, ReadsInterval d start stop := by
  constructor
  · rintro ⟨lower, upper⟩
    obtain ⟨start, lower⟩ := isBound_iff.1 lower
    obtain ⟨stop, upper⟩ := isBound_iff.1 upper
    exact ⟨start, stop, .intro lower upper⟩
  · rintro ⟨start, stop, lower, upper⟩
    exact .intro (isBound_iff.2 ⟨_, lower⟩) (isBound_iff.2 ⟨_, upper⟩)

theorem isInstant_iff {d : Datum} : IsInstant d ↔ ∃ t, ReadsInstant d t := by
  constructor
  · intro h
    cases h with
    | interval leads interval =>
      obtain ⟨start, stop, reads⟩ := isInterval_iff.1 interval
      exact ⟨_, .interval leads reads⟩
    | timestamp leads timestamp =>
      obtain ⟨t, reads⟩ := isTimestamp_iff.1 timestamp
      exact ⟨_, .timestamp leads reads⟩
    | date leads date =>
      obtain ⟨day, reads⟩ := isDate_iff.1 date
      exact ⟨_, .date leads reads⟩
  · rintro ⟨t, h⟩
    cases h with
    | interval leads reads => exact .interval leads (isInterval_iff.2 ⟨_, _, reads⟩)
    | timestamp leads reads => exact .timestamp leads (isTimestamp_iff.2 ⟨_, reads⟩)
    | date leads reads => exact .date leads (isDate_iff.2 ⟨_, reads⟩)

/-! ## Sides of array relations -/

section

variable {functions : List String}

/-- An object has one frame at most. -/
theorem HasFrame.unique {members : Members} {name other : String} {args others : List Datum}
    (first : HasFrame members name args) (second : HasFrame members other others) : name = other ∧ args = others := by
  obtain ⟨⟨op, operator, rfl⟩, listed⟩ := first
  obtain ⟨⟨op', operator', rfl⟩, listed'⟩ := second
  rw [operator] at operator'
  rw [listed] at listed'
  cases operator'
  cases listed'
  exact ⟨rfl, rfl⟩

/-- The symbol of an operator is no name of a function. -/
theorem symbol_mem_coreOperators (op : Operator) : op.symbol ∈ coreOperators :=
  List.mem_map_of_mem op.mem_all

/-- An expression may be a side of an array relation if its operator is a function. -/
theorem isArraySide_expression {members : Members} {n : Node}
    (h : Reads functions .expression (.object members) n) :
    n.isArraySide = true ↔ ∃ name args, HasFrame members name args ∧ name ∉ coreOperators := by
  have core {args : List Datum} (op : Operator) (frame : HasFrame members op.symbol args) :
      ¬ ∃ name args, HasFrame members name args ∧ name ∉ coreOperators := by
    rintro ⟨name, _, other, notCore⟩
    rw [← (frame.unique other).1] at notCore
    exact notCore (symbol_mem_coreOperators op)
  cases h with
  | and frame _ _ => exact ⟨nofun, fun h => absurd h (core (.logical .and) frame)⟩
  | or frame _ _ => exact ⟨nofun, fun h => absurd h (core (.logical .or) frame)⟩
  | not frame _ => exact ⟨nofun, fun h => absurd h (core (.logical .not) frame)⟩
  | @comparison _ op _ _ _ _ frame _ _ => exact ⟨nofun, fun h => absurd h (core (.comparison op) frame)⟩
  | between frame _ _ _ => exact ⟨nofun, fun h => absurd h (core (.advanced .between) frame)⟩
  | like frame _ => exact ⟨nofun, fun h => absurd h (core (.advanced .like) frame)⟩
  | isIn frame _ _ _ => exact ⟨nofun, fun h => absurd h (core (.advanced .isIn) frame)⟩
  | isNull frame _ => exact ⟨nofun, fun h => absurd h (core (.advanced .isNull) frame)⟩
  | @spatial _ op _ _ _ _ frame _ _ => exact ⟨nofun, fun h => absurd h (core (.spatial op) frame)⟩
  | @temporal _ op _ _ _ _ frame _ _ => exact ⟨nofun, fun h => absurd h (core (.temporal op) frame)⟩
  | @array _ op _ _ _ _ frame _ _ _ _ => exact ⟨nofun, fun h => absurd h (core (.array op) frame)⟩
  | function frame _ notCore _ _ _ => exact ⟨fun _ => ⟨_, _, frame, notCore⟩, fun _ => rfl⟩

/-- Whether an operand may be a side of an array relation can be told from its value. -/
theorem isArraySide_operand {d : Datum} {n : Node} (h : Reads functions .operand d n) :
    n.isArraySide = true ↔ HasArrayForm d := by
  have led {members : Members} {key : String} {value : Datum}
      (leads : leading? operandKeys members = some (key, value)) (notProperty : key ≠ "property")
      (notOp : key ≠ "op") : ¬ HasArrayForm (.object members) := by
    intro form
    cases form with
    | property other =>
      rw [leads] at other
      cases other
      exact notProperty rfl
    | function other _ _ =>
      rw [leads] at other
      cases other
      exact notOp rfl
  cases h with
  | bool b => exact ⟨nofun, nofun⟩
  | num v => exact ⟨nofun, nofun⟩
  | str s => exact ⟨nofun, nofun⟩
  | list _ _ => exact ⟨fun _ => .list, fun _ => rfl⟩
  | property leads _ => exact ⟨fun _ => .property leads, fun _ => rfl⟩
  | expression leads reads =>
    rw [isArraySide_expression reads]
    constructor
    · rintro ⟨name, args, frame, notCore⟩
      exact .function leads frame notCore
    · intro form
      cases form with
      | property other =>
        have same : "op" = "property" := congrArg Prod.fst (Option.some.inj (leads.symm.trans other))
        exact absurd same (by decide)
      | function _ frame notCore => exact ⟨_, _, frame, notCore⟩
  | timestamp leads _ => exact ⟨nofun, fun form => absurd form (led leads (by decide) (by decide))⟩
  | date leads _ => exact ⟨nofun, fun form => absurd form (led leads (by decide) (by decide))⟩
  | interval leads _ => exact ⟨nofun, fun form => absurd form (led leads (by decide) (by decide))⟩
  | geometry leads _ => exact ⟨nofun, fun form => absurd form (led leads (by decide) (by decide))⟩
  | bbox leads _ => exact ⟨nofun, fun form => absurd form (led leads (by decide) (by decide))⟩

/-! ## Acceptance -/

/-- Values that have trees each have trees together. -/
theorem exists_zip {position : Position} {ds : List Datum} (each : ∀ d ∈ ds, ∃ n, Reads functions position d n) :
    ∃ ns, ds.length = ns.length ∧ ∀ pair ∈ ds.zip ns, Reads functions position pair.1 pair.2 := by
  induction ds with
  | nil => exact ⟨[], rfl, nofun⟩
  | cons d rest ih =>
    obtain ⟨n, first⟩ := each d List.mem_cons_self
    obtain ⟨ns, count, others⟩ := ih fun d h => each d (List.mem_cons_of_mem _ h)
    refine ⟨n :: ns, congrArg Nat.succ count, fun pair h => ?_⟩
    rw [List.zip_cons_cons, List.mem_cons] at h
    rcases h with rfl | h
    · exact first
    · exact others pair h

/-- What has a tree is accepted. -/
theorem Reads.accepted {position : Position} {d : Datum} {n : Node} (h : Reads functions position d n) :
    Accepted functions position d := by
  induction h with
  | and frame count _ each => exact .and frame (forall_fst_of_zip count each)
  | or frame count _ each => exact .or frame (forall_fst_of_zip count each)
  | not frame _ child => exact .not frame child
  | comparison frame tested _ operand => exact .comparison frame (isProperty_iff.2 ⟨_, tested⟩) operand
  | between frame tested _ _ low high => exact .between frame (isProperty_iff.2 ⟨_, tested⟩) low high
  | like frame tested => exact .like frame (isProperty_iff.2 ⟨_, tested⟩)
  | isIn frame tested count _ each =>
    exact .isIn frame (isProperty_iff.2 ⟨_, tested⟩) (forall_fst_of_zip count each)
  | isNull frame tested => exact .isNull frame (isProperty_iff.2 ⟨_, tested⟩)
  | spatial frame tested shape => exact .spatial frame (isProperty_iff.2 ⟨_, tested⟩) (isShape_iff.2 ⟨_, shape⟩)
  | temporal frame tested instant =>
    exact .temporal frame (isProperty_iff.2 ⟨_, tested⟩) (isInstant_iff.2 ⟨_, instant⟩)
  | array frame readsLeft leftSide readsRight rightSide first second =>
    exact .array frame first ((isArraySide_operand readsLeft).1 leftSide) second
      ((isArraySide_operand readsRight).1 rightSide)
  | function frame notEmpty notCore known count _ each =>
    exact .function frame notEmpty notCore known (forall_fst_of_zip count each)
  | bool b => exact .bool b
  | num v => exact .num v
  | str s => exact .str s
  | list count _ each => exact .list (forall_fst_of_zip count each)
  | property leads notEmpty => exact .property leads notEmpty
  | expression leads _ nested => exact .expression leads nested
  | timestamp leads time => exact .timestamp leads (isTimestamp_iff.2 ⟨_, time⟩)
  | date leads day => exact .date leads (isDate_iff.2 ⟨_, day⟩)
  | interval leads bounds => exact .interval leads (isInterval_iff.2 ⟨_, _, bounds⟩)
  | geometry leads shape => exact .geometry leads (isGeometry_iff.2 ⟨_, shape⟩)
  | bbox leads box => exact .bbox leads (isBox_iff.2 ⟨_, box⟩)

/-- What is accepted has a tree. -/
theorem Accepted.exists_reads {position : Position} {d : Datum} (h : Accepted functions position d) :
    ∃ n, Reads functions position d n := by
  induction h with
  | and frame _ each =>
    obtain ⟨children, count, reads⟩ := exists_zip each
    exact ⟨_, .and frame count reads⟩
  | or frame _ each =>
    obtain ⟨children, count, reads⟩ := exists_zip each
    exact ⟨_, .or frame count reads⟩
  | not frame _ child =>
    obtain ⟨n, reads⟩ := child
    exact ⟨_, .not frame reads⟩
  | comparison frame tested _ operand =>
    obtain ⟨p, tested⟩ := isProperty_iff.1 tested
    obtain ⟨n, reads⟩ := operand
    exact ⟨_, .comparison frame tested reads⟩
  | between frame tested _ _ low high =>
    obtain ⟨p, tested⟩ := isProperty_iff.1 tested
    obtain ⟨lower, readsLower⟩ := low
    obtain ⟨upper, readsUpper⟩ := high
    exact ⟨_, .between frame tested readsLower readsUpper⟩
  | like frame tested =>
    obtain ⟨p, tested⟩ := isProperty_iff.1 tested
    exact ⟨_, .like frame tested⟩
  | isIn frame tested _ each =>
    obtain ⟨p, tested⟩ := isProperty_iff.1 tested
    obtain ⟨ns, count, reads⟩ := exists_zip each
    exact ⟨_, .isIn frame tested count reads⟩
  | isNull frame tested =>
    obtain ⟨p, tested⟩ := isProperty_iff.1 tested
    exact ⟨_, .isNull frame tested⟩
  | spatial frame tested shape =>
    obtain ⟨p, tested⟩ := isProperty_iff.1 tested
    obtain ⟨s, shape⟩ := isShape_iff.1 shape
    exact ⟨_, .spatial frame tested shape⟩
  | temporal frame tested instant =>
    obtain ⟨p, tested⟩ := isProperty_iff.1 tested
    obtain ⟨t, instant⟩ := isInstant_iff.1 instant
    exact ⟨_, .temporal frame tested instant⟩
  | array frame _ leftForm _ rightForm first second =>
    obtain ⟨left, readsLeft⟩ := first
    obtain ⟨right, readsRight⟩ := second
    have leftSide := (isArraySide_operand readsLeft).2 leftForm
    have rightSide := (isArraySide_operand readsRight).2 rightForm
    exact ⟨_, .array frame readsLeft leftSide readsRight rightSide⟩
  | function frame notEmpty notCore known _ each =>
    obtain ⟨ns, count, reads⟩ := exists_zip each
    exact ⟨_, .function frame notEmpty notCore known count reads⟩
  | bool b => exact ⟨_, .bool b⟩
  | num v => exact ⟨_, .num v⟩
  | str s => exact ⟨_, .str s⟩
  | list _ each =>
    obtain ⟨elements, count, reads⟩ := exists_zip each
    exact ⟨_, .list count reads⟩
  | @property _ name leads notEmpty => exact ⟨.property ⟨name⟩, .property leads notEmpty⟩
  | expression leads _ nested =>
    obtain ⟨n, reads⟩ := nested
    exact ⟨_, .expression leads reads⟩
  | timestamp leads timestamp =>
    obtain ⟨t, time⟩ := isTimestamp_iff.1 timestamp
    exact ⟨_, .timestamp leads time⟩
  | date leads date =>
    obtain ⟨d, day⟩ := isDate_iff.1 date
    exact ⟨_, .date leads day⟩
  | interval leads interval =>
    obtain ⟨start, stop, bounds⟩ := isInterval_iff.1 interval
    exact ⟨_, .interval leads bounds⟩
  | geometry leads geometry =>
    obtain ⟨g, shape⟩ := isGeometry_iff.1 geometry
    exact ⟨_, .geometry leads shape⟩
  | bbox leads box =>
    obtain ⟨extent, box⟩ := isBox_iff.1 box
    exact ⟨_, .bbox leads box⟩

end

/-- A decoded document is read exactly when the grammar accepts it. -/
theorem exists_read_iff {names : List String} {document : Datum} :
    (∃ n, read names document = .ok n) ↔ Accepted (names.map Text.lower) .expression document := by
  constructor
  · rintro ⟨n, succeeds⟩
    exact (read_eq_ok.1 succeeds).accepted
  · intro accepted
    obtain ⟨n, reads⟩ := accepted.exists_reads
    exact ⟨n, read_eq_ok.2 reads⟩

/-- The reader accepts its grammar and nothing else: a decoded document is read exactly when it is an expression
of the grammar, with the functions in lower case, and a text when it is JSON of such a document. -/
theorem exists_read_iff_accepted (names : List String) :
    (∀ document, (∃ n, read names document = .ok n) ↔ Accepted (names.map Text.lower) .expression document) ∧
      ∀ text, (∃ n, readText names text = .ok n) ↔
        ∃ document, Json.read .strict text = some document ∧
          Accepted (names.map Text.lower) .expression document := by
  refine ⟨fun document => exists_read_iff, fun text => ?_⟩
  unfold readText
  cases decoded : Json.read .strict text with
  | none => exact ⟨nofun, nofun⟩
  | some document =>
    rw [exists_read_iff]
    constructor
    · exact fun accepted => ⟨document, rfl, accepted⟩
    · rintro ⟨_, same, accepted⟩
      cases same
      exact accepted

end CatalogFilter.Document
