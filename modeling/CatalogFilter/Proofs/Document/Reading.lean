import CatalogFilter.Document.Reader
import CatalogFilter.Proofs.Document.Argument
import CatalogFilter.Proofs.Text.LowerCase

/-!
# What a document is read as

* `Reads` — which value stands for which tree, as an expression or as an operand, rule by rule.
* `readAt_eq_ok` — the reader returns exactly the tree that the rules allow.
* `Reads.unique` — no value stands for two trees.

Rules know no errors and no order of checks. What follows for documents that are read is proved by induction on
the rules, and never by looking into the reader again.
-/

namespace CatalogFilter.Document

open Outcome

/-! ## Frames -/

/-- An object has an operator, `name` in lower case, and a list of arguments. -/
structure HasFrame (members : Members) (name : String) (args : List Datum) : Prop where
  operator : ∃ op, members.lookup "op" = some (.str op) ∧ Text.lower op = name
  arguments : members.lookup "args" = some (.list args)

/-- The name of a frame is in lower case. -/
theorem HasFrame.lower_name {members : Members} {name : String} {args : List Datum}
    (h : HasFrame members name args) :
    Text.lower name = name := by
  obtain ⟨op, -, lowered⟩ := h.operator
  rw [← lowered, Text.lower_lower]

/-- A head is an operator of the language, or one of the functions, which have other names. -/
def Head.Known (functions : List String) : Head → Prop
  | .core _ => True
  | .function name => name ∉ coreOperators ∧ name ∈ functions

/-- The head of a name is the known head that has it. -/
theorem Head.ofName_eq_ok {functions : List String} {name : String} {head : Head} :
    Head.ofName functions name = .ok head ↔ head.name = name ∧ head.Known functions := by
  unfold Head.ofName
  split
  · rename_i op found
    rw [Except.ok.injEq]
    constructor
    · rintro rfl
      exact ⟨Operator.symbol_of_ofSymbol? found, trivial⟩
    · rintro ⟨rfl, known⟩
      cases head with
      | core other =>
        rw [Head.name, Operator.ofSymbol?_symbol] at found
        rw [Option.some.inj found]
      | function name =>
        refine absurd ((mem_coreOperators_iff name).2 ?_) known.1
        exact Option.isSome_of_eq_some found
  · rename_i none
    have notCore : name ∉ coreOperators := by
      rw [mem_coreOperators_iff, none]
      exact nofun
    split
    · rename_i known
      rw [Except.ok.injEq]
      constructor
      · rintro rfl
        exact ⟨rfl, notCore, List.contains_iff_mem.1 known⟩
      · rintro ⟨rfl, -⟩
        cases head with
        | core op =>
          rw [Head.name, Operator.ofSymbol?_symbol] at none
          cases none
        | function name => rfl
    · rename_i unknown
      refine ⟨nofun, ?_⟩
      rintro ⟨rfl, known⟩
      cases head with
      | core op =>
        rw [Head.name, Operator.ofSymbol?_symbol] at none
        cases none
      | function name => exact absurd (List.contains_iff_mem.2 known.2) unknown

/-- Members of other names have no influence on what is below an operator. -/
theorem readForm_cons_ne {functions : List String} {head : Head} {name : String} {value : Datum} {rest : Members}
    (other : name ≠ "args") : readForm functions head ((name, value) :: rest) = readForm functions head rest := by
  rw [readForm.eq_def]
  exact if_neg other

/-- Nor have members behind the first member `args`. -/
theorem readForm_cons_args {functions : List String} {head : Head} {value : Datum} {rest : Members} :
    readForm functions head (("args", value) :: rest) = readForm functions head [("args", value)] := by
  rw [readForm.eq_def, readForm.eq_def functions head [_]]
  exact (if_pos rfl).trans (if_pos rfl).symm

/-- The arguments of an object are the list that is its first member `args`. -/
theorem argsOf_eq_ok {op : String} {members : Members} {args : List Datum} :
    argsOf op members = .ok args ↔ members.lookup "args" = some (.list args) := by
  unfold argsOf
  split
  · rename_i listed found
    rw [found, Except.ok.injEq, Option.some_inj, Data.list.injEq]
  · rename_i noList
    exact ⟨nofun, fun found => absurd found (noList args)⟩

/-- Only the arguments matter to what is below an operator. -/
theorem readForm_eq_bind (functions : List String) (head : Head) (members : Members) :
    readForm functions head members = (do
      let args ← argsOf head.name members
      readForm functions head [("args", .list args)]) := by
  induction members with
  | nil => rw [readForm]; rfl
  | cons m rest ih =>
    obtain ⟨name, value⟩ := m
    by_cases same : name = "args"
    · subst same
      rw [readForm_cons_args, argsOf, List.lookup_cons_self]
      cases value with
      | list args => rfl
      | _ =>
        rw [readForm.eq_def]
        exact if_pos rfl
    · have other : ("args" == name) = false := beq_eq_false_iff_ne.2 (Ne.symm same)
      rw [readForm_cons_ne same, ih, argsOf, argsOf, List.lookup_cons, other]

/-- The head of an object with a frame is the known head of its name. -/
theorem headOf_of_frame {functions : List String} {head : Head} {members : Members} {args : List Datum}
    (known : head.Known functions) (frame : HasFrame members head.name args) : headOf functions members = .ok head := by
  obtain ⟨op, operator, named⟩ := frame.operator
  unfold headOf
  rw [operator]
  exact Head.ofName_eq_ok.2 ⟨named.symm, known⟩

/-- An object with a frame is read as its operator says, to a tree or to an error. -/
theorem readChild_of_frame {functions : List String} {head : Head} {op what : String} {members : Members}
    {args : List Datum} (known : head.Known functions) (frame : HasFrame members head.name args) :
    readChild functions op what (.object members) = readForm functions head [("args", .list args)] := by
  rw [readChild, headOf_of_frame known frame, ok_bind, readForm_eq_bind, argsOf_eq_ok.2 frame.arguments, ok_bind]

/-- An object is read as an expression through its frame, whatever an error would be called. -/
theorem readChild_eq_ok {functions : List String} {op what : String} {members : Members} {n : Node} :
    readChild functions op what (.object members) = .ok n ↔
      ∃ head args, head.Known functions ∧ HasFrame members head.name args ∧
        readForm functions head [("args", .list args)] = .ok n := by
  constructor
  · intro read
    rw [readChild, bind_eq_ok] at read
    obtain ⟨head, found, read⟩ := read
    rw [readForm_eq_bind, bind_eq_ok] at read
    obtain ⟨args, listed, read⟩ := read
    unfold headOf at found
    split at found
    · rename_i op operator
      obtain ⟨named, known⟩ := Head.ofName_eq_ok.1 found
      exact ⟨head, args, known, ⟨⟨op, operator, named.symm⟩, argsOf_eq_ok.1 listed⟩, read⟩
    · cases found
  · rintro ⟨head, args, known, frame, read⟩
    rw [readChild_of_frame known frame, read]

/-! ## Constructors that check -/

/-- An array relation is between sides that may be arrays. -/
theorem arrayRelation_eq_ok {op : ArrayOp} {left right n : Node} :
    arrayRelation op left right = .ok n ↔
      left.isArraySide = true ∧ right.isArraySide = true ∧ .arrayComparison op left right = n := by
  unfold arrayRelation
  cases left.isArraySide with
  | false => exact ⟨nofun, fun h => nomatch h.1⟩
  | true =>
    cases right.isArraySide with
    | false => exact ⟨nofun, fun h => nomatch h.2.1⟩
    | true => exact ⟨fun h => ⟨rfl, rfl, Except.ok.inj h⟩, fun h => congrArg Except.ok h.2.2⟩

/-- A function has a name, and not that of an operator. -/
theorem makeFunction_eq_ok {name : String} {args : List Node} {n : Node} :
    Node.makeFunction name args = .ok n ↔
      name ≠ "" ∧ Text.lower name ∉ coreOperators ∧ .function name args = n := by
  unfold Node.makeFunction checkFunctionName
  rw [map_eq_ok]
  split
  · rename_i empty
    exact ⟨nofun, fun h => absurd empty h.1⟩
  · rename_i notEmpty
    split
    · rename_i core
      exact ⟨nofun, fun h => absurd (List.contains_iff_mem.1 core) h.2.1⟩
    · rename_i notCore
      constructor
      · rintro ⟨_, -, same⟩
        exact ⟨notEmpty, fun core => notCore (List.contains_iff_mem.2 core), same⟩
      · rintro ⟨-, -, same⟩
        exact ⟨(), rfl, same⟩

/-! ## Rules -/

/-- Where a value stands. -/
inductive Position where
  | expression
  | operand

/-- The members that an operand is read by, the deciding one first. -/
def operandKeys : List String :=
  ["property", "op", "timestamp", "date", "interval", "type", "bbox"]

/-- Which value stands for which tree. -/
inductive Reads (functions : List String) : Position → Datum → Node → Prop where
  | and {members : Members} {args : List Datum} {children : List Node} (frame : HasFrame members "and" args)
      (count : args.length = children.length)
      (each : ∀ pair ∈ args.zip children, Reads functions .expression pair.1 pair.2) :
      Reads functions .expression (.object members) (.and children)
  | or {members : Members} {args : List Datum} {children : List Node} (frame : HasFrame members "or" args)
      (count : args.length = children.length)
      (each : ∀ pair ∈ args.zip children, Reads functions .expression pair.1 pair.2) :
      Reads functions .expression (.object members) (.or children)
  | not {members : Members} {arg : Datum} {child : Node} (frame : HasFrame members "not" [arg])
      (reads : Reads functions .expression arg child) :
      Reads functions .expression (.object members) (.not child)
  | comparison {members : Members} {op : ComparisonOp} {left right : Datum} {p : Property} {n : Node}
      (frame : HasFrame members op.symbol [left, right]) (tested : ReadsProperty left p)
      (reads : Reads functions .operand right n) :
      Reads functions .expression (.object members) (.comparison op p n)
  | between {members : Members} {subject low high : Datum} {p : Property} {lower upper : Node}
      (frame : HasFrame members "between" [subject, low, high]) (tested : ReadsProperty subject p)
      (readsLower : Reads functions .operand low lower) (readsUpper : Reads functions .operand high upper) :
      Reads functions .expression (.object members) (.between p lower upper)
  | like {members : Members} {subject : Datum} {p : Property} {pattern : String}
      (frame : HasFrame members "like" [subject, .str pattern]) (tested : ReadsProperty subject p) :
      Reads functions .expression (.object members) (.like p pattern)
  | isIn {members : Members} {subject : Datum} {values : List Datum} {p : Property} {ns : List Node}
      (frame : HasFrame members "in" [subject, .list values]) (tested : ReadsProperty subject p)
      (count : values.length = ns.length)
      (each : ∀ pair ∈ values.zip ns, Reads functions .operand pair.1 pair.2) :
      Reads functions .expression (.object members) (.isIn p ns)
  | isNull {members : Members} {subject : Datum} {p : Property} (frame : HasFrame members "isnull" [subject])
      (tested : ReadsProperty subject p) : Reads functions .expression (.object members) (.isNull p)
  | spatial {members : Members} {op : SpatialOp} {left right : Datum} {p : Property} {s : Shape}
      (frame : HasFrame members op.symbol [left, right]) (tested : ReadsProperty left p)
      (shape : ReadsShape right s) : Reads functions .expression (.object members) (.spatial op p s)
  | temporal {members : Members} {op : TemporalOp} {left right : Datum} {p : Property} {t : Instant}
      (frame : HasFrame members op.symbol [left, right]) (tested : ReadsProperty left p)
      (instant : ReadsInstant right t) : Reads functions .expression (.object members) (.temporal op p t)
  | array {members : Members} {op : ArrayOp} {first second : Datum} {left right : Node}
      (frame : HasFrame members op.symbol [first, second]) (readsLeft : Reads functions .operand first left)
      (leftSide : left.isArraySide = true) (readsRight : Reads functions .operand second right)
      (rightSide : right.isArraySide = true) :
      Reads functions .expression (.object members) (.arrayComparison op left right)
  | function {members : Members} {name : String} {args : List Datum} {ns : List Node}
      (frame : HasFrame members name args) (notEmpty : name ≠ "") (notCore : name ∉ coreOperators)
      (known : name ∈ functions) (count : args.length = ns.length)
      (each : ∀ pair ∈ args.zip ns, Reads functions .operand pair.1 pair.2) :
      Reads functions .expression (.object members) (.function name ns)
  | bool (b : Bool) : Reads functions .operand (.bool b) (.literal (.bool b))
  | num (n : Number) : Reads functions .operand (.num n) (.literal (.num n))
  | str (s : String) : Reads functions .operand (.str s) (.literal (.str s))
  | list {items : List Datum} {elements : List Node} (count : items.length = elements.length)
      (each : ∀ pair ∈ items.zip elements, Reads functions .operand pair.1 pair.2) :
      Reads functions .operand (.list items) (.array elements)
  | property {members : Members} {p : Property}
      (leads : leading? operandKeys members = some ("property", .str p.name)) (notEmpty : p.name ≠ "") :
      Reads functions .operand (.object members) (.property p)
  | expression {members : Members} {value : Datum} {n : Node}
      (leads : leading? operandKeys members = some ("op", value))
      (reads : Reads functions .expression (.object members) n) : Reads functions .operand (.object members) n
  | timestamp {members : Members} {value : Datum} {t : OffsetDateTime}
      (leads : leading? operandKeys members = some ("timestamp", value)) (time : ReadsTimestamp value t) :
      Reads functions .operand (.object members) (.timestamp t)
  | date {members : Members} {value : Datum} {d : Date}
      (leads : leading? operandKeys members = some ("date", value)) (day : ReadsDate value d) :
      Reads functions .operand (.object members) (.date d)
  | interval {members : Members} {value : Datum} {start stop : Option OffsetDateTime}
      (leads : leading? operandKeys members = some ("interval", value)) (bounds : ReadsInterval value start stop) :
      Reads functions .operand (.object members) (.interval start stop)
  | geometry {members : Members} {value : Datum} {g : Geometry}
      (leads : leading? operandKeys members = some ("type", value)) (shape : ReadsGeometry (.object members) g) :
      Reads functions .operand (.object members) (.geometry g)
  | bbox {members : Members} {value : Datum} {extent : List Number}
      (leads : leading? operandKeys members = some ("bbox", value)) (box : ReadsBox value extent) :
      Reads functions .operand (.object members) (.bbox extent)

/-- The reader for a position. -/
def readAt (functions : List String) (op : String) : Position → Datum → Except ParseError Node
  | .expression => readChild functions op "child expression"
  | .operand => readOperand functions op

variable {functions : List String}

/-! ## Lists -/

/-- What holds of the first parts of all pairs holds of all values. -/
theorem forall_fst_of_zip {P : Datum → Prop} {ds : List Datum} {ns : List Node} (count : ds.length = ns.length)
    (each : ∀ pair ∈ ds.zip ns, P pair.1) (d : Datum) (h : d ∈ ds) : P d := by
  rw [← List.map_fst_zip (Nat.le_of_eq count)] at h
  obtain ⟨pair, member, rfl⟩ := List.mem_map.1 h
  exact each pair member

/-- What holds of the second parts of all pairs holds of all trees. -/
theorem forall_snd_of_zip {P : Node → Prop} {ds : List Datum} {ns : List Node} (count : ds.length = ns.length)
    (each : ∀ pair ∈ ds.zip ns, P pair.2) (n : Node) (h : n ∈ ns) : P n := by
  rw [← List.map_snd_zip (Nat.le_of_eq count.symm)] at h
  obtain ⟨pair, member, rfl⟩ := List.mem_map.1 h
  exact each pair member

/-- Operands are read one after the other. -/
theorem readOperands_eq_mapM (functions : List String) (op : String) (items : List Datum) :
    readOperands functions op items = items.mapM (readAt functions op .operand) := by
  induction items with
  | nil => rfl
  | cons d rest ih =>
    rw [readOperands, ih, List.mapM_cons]
    rfl

/-- So are expressions. -/
theorem readChildren_eq_mapM (functions : List String) (op : String) (items : List Datum) :
    readChildren functions op items = items.mapM (readAt functions op .expression) := by
  induction items with
  | nil => rfl
  | cons d rest ih =>
    rw [readChildren, ih, List.mapM_cons]
    rfl

/-- Operands are read together exactly when each of them is. -/
theorem readOperands_eq_ok {op : String} {items : List Datum} {ns : List Node} :
    readOperands functions op items = .ok ns ↔
      items.length = ns.length ∧ ∀ pair ∈ items.zip ns, readAt functions op .operand pair.1 = .ok pair.2 := by
  rw [readOperands_eq_mapM, mapM_eq_ok, List.forall₂_iff_zip, Prod.forall]

/-- Expressions are read together exactly when each of them is. -/
theorem readChildren_eq_ok {op : String} {items : List Datum} {ns : List Node} :
    readChildren functions op items = .ok ns ↔
      items.length = ns.length ∧ ∀ pair ∈ items.zip ns, readAt functions op .expression pair.1 = .ok pair.2 := by
  rw [readChildren_eq_mapM, mapM_eq_ok, List.forall₂_iff_zip, Prod.forall]

/-! ## From the reader to the rules -/

/-- Below an operator, what the reader returns is allowed by the operator's rule if the arguments are read by the
rules. -/
theorem reads_of_readForm {head : Head} {members : Members} {args : List Datum} {n : Node}
    (below : ∀ d ∈ args, ∀ position op n, readAt functions op position d = .ok n → Reads functions position d n)
    (known : head.Known functions) (frame : HasFrame members head.name args)
    (read : readForm functions head [("args", .list args)] = .ok n) :
    Reads functions .expression (.object members) n := by
  rw [readForm.eq_def] at read
  dsimp only at read
  rw [if_pos rfl] at read
  split at read
  · obtain ⟨children, readAll, rfl⟩ := map_eq_ok.1 read
    obtain ⟨count, each⟩ := readChildren_eq_ok.1 readAll
    exact .and frame count fun pair h => below _ (List.of_mem_zip h).1 _ _ _ (each pair h)
  · obtain ⟨children, readAll, rfl⟩ := map_eq_ok.1 read
    obtain ⟨count, each⟩ := readChildren_eq_ok.1 readAll
    exact .or frame count fun pair h => below _ (List.of_mem_zip h).1 _ _ _ (each pair h)
  · split at read
    · obtain ⟨child, readArg, rfl⟩ := map_eq_ok.1 read
      exact .not frame (below _ List.mem_cons_self .expression _ _ readArg)
    · cases read
  · split at read
    · obtain ⟨p, tested, rest⟩ := bind_eq_ok.1 read
      obtain ⟨right, readRight, same⟩ := bind_eq_ok.1 rest
      cases same
      exact .comparison frame (readProperty_eq_ok.1 tested) (below _ (by simp) .operand _ _ readRight)
    · cases read
  · split at read
    · obtain ⟨p, tested, rest⟩ := bind_eq_ok.1 read
      obtain ⟨lower, readLower, rest⟩ := bind_eq_ok.1 rest
      obtain ⟨upper, readUpper, same⟩ := bind_eq_ok.1 rest
      cases same
      exact .between frame (readProperty_eq_ok.1 tested) (below _ (by simp) .operand _ _ readLower)
        (below _ (by simp) .operand _ _ readUpper)
    · cases read
  · split at read
    · obtain ⟨p, tested, rest⟩ := bind_eq_ok.1 read
      split at rest
      · cases rest
        exact .like frame (readProperty_eq_ok.1 tested)
      · cases rest
    · cases read
  · split at read
    · obtain ⟨p, tested, rest⟩ := bind_eq_ok.1 read
      split at rest
      · rename_i values
        obtain ⟨ns, readAll, rfl⟩ := map_eq_ok.1 rest
        -- the values are read as the elements of a list in operand position are
        have asList : readAt functions "in" .operand (.list values) = .ok (.array ns) := by
          rw [readAt, readOperand]
          exact map_eq_ok.2 ⟨ns, readAll, rfl⟩
        cases below _ (by simp) .operand _ _ asList with
        | list count each => exact .isIn frame (readProperty_eq_ok.1 tested) count each
      · cases rest
    · cases read
  · split at read
    · obtain ⟨p, tested, rfl⟩ := map_eq_ok.1 read
      exact .isNull frame (readProperty_eq_ok.1 tested)
    · cases read
  · split at read
    · obtain ⟨p, tested, rest⟩ := bind_eq_ok.1 read
      obtain ⟨s, shape, same⟩ := bind_eq_ok.1 rest
      cases same
      exact .spatial frame (readProperty_eq_ok.1 tested) (readShape_eq_ok.1 shape)
    · cases read
  · split at read
    · obtain ⟨p, tested, rest⟩ := bind_eq_ok.1 read
      obtain ⟨t, instant, same⟩ := bind_eq_ok.1 rest
      cases same
      exact .temporal frame (readProperty_eq_ok.1 tested) (readInstant_eq_ok.1 instant)
    · cases read
  · split at read
    · obtain ⟨left, readLeft, rest⟩ := bind_eq_ok.1 read
      obtain ⟨right, readRight, rest⟩ := bind_eq_ok.1 rest
      obtain ⟨leftSide, rightSide, rfl⟩ := arrayRelation_eq_ok.1 rest
      exact .array frame (below _ (by simp) .operand _ _ readLeft) leftSide
        (below _ (by simp) .operand _ _ readRight) rightSide
    · cases read
  · rename_i name
    obtain ⟨ns, readAll, made⟩ := bind_eq_ok.1 read
    obtain ⟨notEmpty, -, rfl⟩ := makeFunction_eq_ok.1 made
    obtain ⟨count, each⟩ := readOperands_eq_ok.1 readAll
    exact .function frame notEmpty known.1 known.2 count fun pair h =>
      below _ (List.of_mem_zip h).1 _ _ _ (each pair h)

/-- A member's value is smaller than the object. -/
theorem sizeOf_lt_of_lookup {members : Members} {name : String} {value : Datum}
    (found : members.lookup name = some value) : sizeOf value < sizeOf (Data.object members : Datum) := by
  have inList : sizeOf value < sizeOf members := by
    induction members with
    | nil => cases found
    | cons m rest ih =>
      obtain ⟨key, other⟩ := m
      rw [List.lookup_cons] at found
      split at found
      · cases found
        simp
        omega
      · have := ih found
        simp
        omega
  rw [Data.object.sizeOf_spec]
  omega

/-- What an operand is by its leading name. -/
def operandBy (functions : List String) (op : String) (members : Members) : String → Datum → Except ParseError Node
  | "property", value => (readPropertyName op value).map .property
  | "op", _ => readChild functions op "child expression" (.object members)
  | "timestamp", value => (readTimestamp op value).map .timestamp
  | "date", value => (readDate op value).map .date
  | "interval", value => (readInterval op value).map fun (start, stop) => .interval start stop
  | "type", _ => (readGeometry op (.object members)).map .geometry
  | _, value => (readBox op value).map .bbox

/-- Objects are read as operands by their leading name. -/
theorem readOperand_object {op : String} {members : Members} :
    readOperand functions op (.object members) =
      readFirst operandKeys members (operandBy functions op members)
        (.shape op (.unknownOperand (sortedNames members))) := by
  have nested : operandBy functions op members "op" (valueOf members "op") = (do
      let head ← headOf functions members
      readForm functions head members) := by
    rw [operandBy, readChild]
  simp only [operandKeys, readFirst_cons, readFirst_nil, nested]
  rw [readOperand]
  rfl

/-- An object that is read as an operand is read by the rule of its leading name. -/
theorem reads_of_readOperand_object {members : Members} {op : String} {n : Node}
    (nested : ∀ op n, readChild functions op "child expression" (.object members) = .ok n →
      Reads functions .expression (.object members) n)
    (read : readOperand functions op (.object members) = .ok n) : Reads functions .operand (.object members) n := by
  rw [readOperand_object, readFirst_eq_ok] at read
  obtain ⟨key, value, leads, read⟩ := read
  have among := mem_of_leading? leads
  simp only [operandKeys, List.mem_cons, List.not_mem_nil, or_false] at among
  rcases among with rfl | rfl | rfl | rfl | rfl | rfl | rfl
  · obtain ⟨p, named, rfl⟩ := map_eq_ok.1 read
    obtain ⟨rfl, notEmpty⟩ := readPropertyName_eq_ok.1 named
    exact .property leads notEmpty
  · exact .expression leads (nested op n read)
  · obtain ⟨t, time, rfl⟩ := map_eq_ok.1 read
    exact .timestamp leads (readTimestamp_eq_ok.1 time)
  · obtain ⟨d, day, rfl⟩ := map_eq_ok.1 read
    exact .date leads (readDate_eq_ok.1 day)
  · obtain ⟨⟨start, stop⟩, bounds, rfl⟩ := map_eq_ok.1 read
    exact .interval leads (readInterval_eq_ok.1 bounds)
  · obtain ⟨g, shape, rfl⟩ := map_eq_ok.1 read
    exact .geometry leads (readGeometry_eq_ok.1 shape)
  · obtain ⟨extent, box, rfl⟩ := map_eq_ok.1 read
    exact .bbox leads (readBox_eq_ok.1 box)

/-- What the reader returns in a position is allowed by the rules. -/
theorem reads_of_readAt {d : Datum} {position : Position} {op : String} {n : Node}
    (read : readAt functions op position d = .ok n) : Reads functions position d n := by
  -- on the size of the value: the arguments of an object are not its direct parts
  induction size : sizeOf d using Nat.strongRecOn generalizing d position op n with
  | ind size smaller =>
    subst size
    cases d with
    | object members =>
      have nested (op : String) (n : Node)
          (read : readChild functions op "child expression" (.object members) = .ok n) :
          Reads functions .expression (.object members) n := by
        obtain ⟨head, args, known, frame, form⟩ := readChild_eq_ok.1 read
        refine reads_of_readForm (fun arg h position op n readArg => ?_) known frame form
        have listSmaller := sizeOf_lt_of_lookup frame.arguments
        have argSmaller := List.sizeOf_lt_of_mem h
        rw [Data.list.sizeOf_spec] at listSmaller
        exact smaller (sizeOf arg) (by omega) readArg rfl
      cases position with
      | expression => exact nested op n read
      | operand => exact reads_of_readOperand_object nested read
    | list items =>
      cases position with
      | expression => cases read
      | operand =>
        rw [readAt, readOperand] at read
        obtain ⟨elements, readAll, rfl⟩ := map_eq_ok.1 read
        obtain ⟨count, each⟩ := readOperands_eq_ok.1 readAll
        refine .list count fun pair h => ?_
        have itemSmaller := List.sizeOf_lt_of_mem (List.of_mem_zip h).1
        rw [Data.list.sizeOf_spec] at smaller
        exact smaller (sizeOf pair.1) (by omega) (each pair h) rfl
    | bool b =>
      cases position with
      | expression => cases read
      | operand =>
        cases read
        exact .bool b
    | num v =>
      cases position with
      | expression => cases read
      | operand =>
        cases read
        exact .num v
    | str s =>
      cases position with
      | expression => cases read
      | operand =>
        cases read
        exact .str s
    | _ => cases position <;> cases read

/-! ## From the rules to the reader -/

/-- An object with a frame is read as its operator says. -/
theorem readAt_of_frame {outer : String} {members : Members} {args : List Datum} {n : Node} (head : Head)
    (known : head.Known functions) (frame : HasFrame members head.name args)
    (read : readForm functions head [("args", .list args)] = .ok n) :
    readAt functions outer .expression (.object members) = .ok n := by
  rw [readAt, readChild_eq_ok]
  exact ⟨head, args, known, frame, read⟩

/-- An object is read as an operand as its leading name says. -/
theorem readAt_of_leading {outer key : String} {members : Members} {value : Datum} {n : Node}
    (leads : leading? operandKeys members = some (key, value))
    (read : operandBy functions outer members key value = .ok n) :
    readAt functions outer .operand (.object members) = .ok n := by
  rw [readAt, readOperand_object, readFirst_eq_ok]
  exact ⟨key, value, leads, read⟩

/-- What the rules allow is what the reader returns. -/
theorem Reads.readAt_eq {position : Position} {d : Datum} {n : Node} (h : Reads functions position d n)
    (outer : String) : readAt functions outer position d = .ok n := by
  induction h generalizing outer with
  | and frame count _ each =>
    apply readAt_of_frame (.core (.logical .and)) trivial frame
    rw [readForm, if_pos rfl, map_eq_ok]
    exact ⟨_, readChildren_eq_ok.2 ⟨count, fun pair h => each pair h _⟩, rfl⟩
  | or frame count _ each =>
    apply readAt_of_frame (.core (.logical .or)) trivial frame
    rw [readForm, if_pos rfl, map_eq_ok]
    exact ⟨_, readChildren_eq_ok.2 ⟨count, fun pair h => each pair h _⟩, rfl⟩
  | not frame _ arg =>
    apply readAt_of_frame (.core (.logical .not)) trivial frame
    rw [readForm, if_pos rfl, map_eq_ok]
    exact ⟨_, arg _, rfl⟩
  | @comparison members op left right p n frame tested _ arg =>
    apply readAt_of_frame (.core (.comparison op)) trivial frame
    rw [readForm, if_pos rfl, bind_eq_ok]
    exact ⟨p, readProperty_eq_ok.2 tested, bind_eq_ok.2 ⟨n, arg _, rfl⟩⟩
  | @between _ _ _ _ p lower upper frame tested _ _ low high =>
    apply readAt_of_frame (.core (.advanced .between)) trivial frame
    rw [readForm, if_pos rfl, bind_eq_ok]
    exact ⟨p, readProperty_eq_ok.2 tested, bind_eq_ok.2 ⟨lower, low _, bind_eq_ok.2 ⟨upper, high _, rfl⟩⟩⟩
  | @like _ _ p _ frame tested =>
    apply readAt_of_frame (.core (.advanced .like)) trivial frame
    rw [readForm, if_pos rfl, bind_eq_ok]
    exact ⟨p, readProperty_eq_ok.2 tested, rfl⟩
  | @isIn _ _ _ p ns frame tested count _ each =>
    apply readAt_of_frame (.core (.advanced .isIn)) trivial frame
    rw [readForm, if_pos rfl, bind_eq_ok]
    refine ⟨p, readProperty_eq_ok.2 tested, map_eq_ok.2 ⟨ns, ?_, rfl⟩⟩
    exact readOperands_eq_ok.2 ⟨count, fun pair h => each pair h _⟩
  | isNull frame tested =>
    apply readAt_of_frame (.core (.advanced .isNull)) trivial frame
    rw [readForm, if_pos rfl, map_eq_ok]
    exact ⟨_, readProperty_eq_ok.2 tested, rfl⟩
  | @spatial _ op _ _ p s frame tested shape =>
    apply readAt_of_frame (.core (.spatial op)) trivial frame
    rw [readForm, if_pos rfl, bind_eq_ok]
    exact ⟨p, readProperty_eq_ok.2 tested, bind_eq_ok.2 ⟨s, readShape_eq_ok.2 shape, rfl⟩⟩
  | @temporal _ op _ _ p t frame tested instant =>
    apply readAt_of_frame (.core (.temporal op)) trivial frame
    rw [readForm, if_pos rfl, bind_eq_ok]
    exact ⟨p, readProperty_eq_ok.2 tested, bind_eq_ok.2 ⟨t, readInstant_eq_ok.2 instant, rfl⟩⟩
  | @array _ op _ _ left right frame _ leftSide _ rightSide first second =>
    apply readAt_of_frame (.core (.array op)) trivial frame
    rw [readForm, if_pos rfl, bind_eq_ok]
    refine ⟨left, first _, bind_eq_ok.2 ⟨right, second _, ?_⟩⟩
    exact arrayRelation_eq_ok.2 ⟨leftSide, rightSide, rfl⟩
  | @function members name args ns frame notEmpty notCore known count _ each =>
    apply readAt_of_frame (.function name) ⟨notCore, known⟩ frame
    rw [readForm, if_pos rfl, bind_eq_ok]
    refine ⟨ns, readOperands_eq_ok.2 ⟨count, fun pair h => each pair h _⟩, ?_⟩
    rw [← frame.lower_name] at notCore
    exact makeFunction_eq_ok.2 ⟨notEmpty, notCore, rfl⟩
  | bool b => rfl
  | num v => rfl
  | str s => rfl
  | list count _ each =>
    rw [readAt, readOperand, map_eq_ok]
    exact ⟨_, readOperands_eq_ok.2 ⟨count, fun pair h => each pair h _⟩, rfl⟩
  | property leads notEmpty =>
    exact readAt_of_leading leads (map_eq_ok.2 ⟨_, readPropertyName_eq_ok.2 ⟨rfl, notEmpty⟩, rfl⟩)
  | expression leads _ nested => exact readAt_of_leading leads (nested outer)
  | timestamp leads time => exact readAt_of_leading leads (map_eq_ok.2 ⟨_, readTimestamp_eq_ok.2 time, rfl⟩)
  | date leads day => exact readAt_of_leading leads (map_eq_ok.2 ⟨_, readDate_eq_ok.2 day, rfl⟩)
  | interval leads bounds => exact readAt_of_leading leads (map_eq_ok.2 ⟨_, readInterval_eq_ok.2 bounds, rfl⟩)
  | geometry leads shape => exact readAt_of_leading leads (map_eq_ok.2 ⟨_, readGeometry_eq_ok.2 shape, rfl⟩)
  | bbox leads box => exact readAt_of_leading leads (map_eq_ok.2 ⟨_, readBox_eq_ok.2 box, rfl⟩)

/-- The reader and the rules agree. -/
theorem readAt_eq_ok (outer : String) {position : Position} {d : Datum} {n : Node} :
    readAt functions outer position d = .ok n ↔ Reads functions position d n :=
  ⟨reads_of_readAt, fun h => h.readAt_eq outer⟩

/-- No value stands for two trees in one position. -/
theorem Reads.unique {position : Position} {d : Datum} {n m : Node} (first : Reads functions position d n)
    (second : Reads functions position d m) : n = m := by
  have read := first.readAt_eq ""
  rw [second.readAt_eq ""] at read
  exact (Except.ok.inj read).symm

/-- A whole document is read as an expression, with its functions in lower case. -/
theorem read_eq_ok {names : List String} {d : Datum} {n : Node} :
    read names d = .ok n ↔ Reads (names.map Text.lower) .expression d n := by
  rw [← readAt_eq_ok "filter", read, readAt]
  cases d with
  | object members => exact readChild_eq_ok.trans readChild_eq_ok.symm
  | _ => exact ⟨nofun, nofun⟩

end CatalogFilter.Document
