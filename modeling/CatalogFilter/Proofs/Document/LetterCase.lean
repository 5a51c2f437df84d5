import CatalogFilter.Proofs.Document.Reading

/-!
# Letter case of operators and functions

* `argumentPosition` — which arguments of an operator are read in their turn, and as what.
* `Recased` — values that differ in the letter case of operators of objects that are read as expressions, and in nothing else.
* `readForm_congr` — below an operator, arguments that are read alike lead to the same tree or to the same error.
* `readAt_congr` — values that differ in letter case are read alike, with functions of the same names.
* `readAny_recased` — so are whole documents, with functions whose names differ in letter case as well.

Letters are lowered in one place, where the head of an object is looked up. Everything below gets the head and not the operator,
so two readings go the same way from there on.
-/

namespace CatalogFilter.Document

open Outcome

/-! ## Places of arguments -/

/-- As what an argument of an operator is read, by its place in the list of arguments. The arguments that are properties, shapes,
times or patterns are not read in their turn, and too many arguments are not read at all. -/
def argumentPosition : Operator → Nat → Option Position
  | .logical _, _ => some .expression
  | .comparison _, 1 => some .operand
  | .advanced .between, 1 => some .operand
  | .advanced .between, 2 => some .operand
  | .advanced .isIn, 1 => some .operand
  | .array _, _ => some .operand
  | _, _ => none

/-- The same by the name of the operator in lower case. All arguments of functions are operands. -/
def placeOf (name : String) (i : Nat) : Option Position :=
  match Operator.ofSymbol? name with
  | some op => argumentPosition op i
  | none => some .operand

/-- The same by the head. -/
def Head.place : Head → Nat → Option Position
  | .core op, i => argumentPosition op i
  | .function _, _ => some .operand

/-- A known head has the places of its name. -/
theorem Head.place_eq {functions : List String} {head : Head} (known : head.Known functions) (i : Nat) :
    head.place i = placeOf head.name i := by
  unfold placeOf
  cases head with
  | core op =>
    rw [Head.name, Operator.ofSymbol?_symbol]
    rfl
  | function name =>
    have noOperator : Operator.ofSymbol? name = none := by
      rw [← Option.not_isSome_iff_eq_none, ← mem_coreOperators_iff]
      exact known.1
    rw [Head.name, noOperator]
    rfl

/-! ## Other letters -/

/-- Values in a position differ in the letter case of operators of objects that are read as expressions, and in nothing else. -/
inductive Recased : Position → Datum → Datum → Prop where
  | same {position : Position} (d : Datum) : Recased position d d
  /-- The elements of a list of operands differ. -/
  | list {items items' : List Datum} (count : items.length = items'.length)
      (each : ∀ pair ∈ items.zip items', Recased .operand pair.1 pair.2) :
      Recased .operand (.list items) (.list items')
  /-- An operand that is read as an expression differs. -/
  | nested {members members' : Members} {value : Datum} (leads : leading? operandKeys members = some ("op", value))
      (differs : Recased .expression (.object members) (.object members')) :
      Recased .operand (.object members) (.object members')
  /-- The operator of an expression differs. -/
  | operator {members members' : Members} {op op' : String} (operator : members.lookup "op" = some (.str op))
      (operator' : members'.lookup "op" = some (.str op')) (letters : Text.lower op = Text.lower op')
      (others : ∀ name, name ≠ "op" → members.lookup name = members'.lookup name) :
      Recased .expression (.object members) (.object members')
  /-- The operator of an expression and arguments that are read in their turn differ. -/
  | arguments {members members' : Members} {op op' : String} {args args' : List Datum}
      (operator : members.lookup "op" = some (.str op)) (operator' : members'.lookup "op" = some (.str op'))
      (letters : Text.lower op = Text.lower op') (listed : members.lookup "args" = some (.list args))
      (listed' : members'.lookup "args" = some (.list args'))
      (others : ∀ name, name ≠ "op" → name ≠ "args" → members.lookup name = members'.lookup name)
      (count : args.length = args'.length)
      (each : ∀ i position d d', placeOf (Text.lower op) i = some position → args[i]? = some d → args'[i]? = some d' →
        Recased position d d')
      (still : ∀ i, placeOf (Text.lower op) i = none → args[i]? = args'[i]?) :
      Recased .expression (.object members) (.object members')

/-- Expressions differ only where they are objects. -/
theorem Recased.eq_or_objects {d d' : Datum} (h : Recased .expression d d') :
    d = d' ∨ ∃ members members', d = .object members ∧ d' = .object members' := by
  cases h with
  | same => exact .inl rfl
  | operator => exact .inr ⟨_, _, rfl, rfl⟩
  | arguments => exact .inr ⟨_, _, rfl, rfl⟩

/-- The members `args` of two objects, below one head. -/
inductive ArgsRecased (head : Head) : Option Datum → Option Datum → Prop where
  | same (value : Option Datum) : ArgsRecased head value value
  | lists {args args' : List Datum} (count : args.length = args'.length)
      (each : ∀ i position d d', head.place i = some position → args[i]? = some d → args'[i]? = some d' →
        Recased position d d')
      (still : ∀ i, head.place i = none → args[i]? = args'[i]?) :
      ArgsRecased head (some (.list args)) (some (.list args'))

/-- A head is found by the operator in lower case. -/
theorem headOf_of_lookup {members : Members} {op : String} (operator : members.lookup "op" = some (.str op))
    (functions : List String) : headOf functions members = Head.ofName functions (Text.lower op) := by
  rw [headOf, operator]

/-- Objects that are recased have one head. -/
theorem Recased.headOf_eq {members members' : Members}
    (h : Recased .expression (.object members) (.object members')) (functions : List String) :
    headOf functions members = headOf functions members' := by
  cases h with
  | same => rfl
  | operator operator operator' letters =>
    rw [headOf_of_lookup operator, headOf_of_lookup operator', letters]
  | arguments operator operator' letters =>
    rw [headOf_of_lookup operator, headOf_of_lookup operator', letters]

/-- Below that head, so are their arguments. -/
theorem Recased.args {members members' : Members} {functions : List String} {head : Head}
    (h : Recased .expression (.object members) (.object members')) (found : headOf functions members = .ok head) :
    ArgsRecased head (members.lookup "args") (members'.lookup "args") := by
  cases h with
  | same => exact .same _
  | operator _ _ _ others =>
    rw [others "args" (by decide)]
    exact .same _
  | arguments operator _ _ listed listed' _ count each still =>
    rw [headOf_of_lookup operator] at found
    obtain ⟨named, known⟩ := Head.ofName_eq_ok.1 found
    rw [← named] at each still
    rw [listed, listed']
    refine .lists count (fun i position d d' place => ?_) fun i place => ?_
    · exact each i position d d' ((Head.place_eq known i).symm.trans place)
    · exact still i ((Head.place_eq known i).symm.trans place)

/-- The operator leads where there is no member `property`. -/
theorem leading?_op_iff {members : Members} {value : Datum} :
    leading? operandKeys members = some ("op", value) ↔
      members.lookup "property" = none ∧ members.lookup "op" = some value := by
  have others : leading? ["timestamp", "date", "interval", "type", "bbox"] members ≠ some ("op", value) := fun leads =>
    absurd (mem_of_leading? leads) (by decide)
  rw [operandKeys, leading?_cons, leading?_cons, has_eq_false]
  simp [others]

/-- An object that is read as an operand by its operator remains one. -/
theorem Recased.leads {members members' : Members} {value : Datum}
    (h : Recased .expression (.object members) (.object members'))
    (leads : leading? operandKeys members = some ("op", value)) :
    ∃ value', leading? operandKeys members' = some ("op", value') := by
  simp only [leading?_op_iff] at leads ⊢
  cases h with
  | same => exact ⟨value, leads⟩
  | operator _ operator' _ others => exact ⟨_, (others _ (by decide)).symm.trans leads.1, operator'⟩
  | arguments _ operator' _ _ _ others => exact ⟨_, (others _ (by decide) (by decide)).symm.trans leads.1, operator'⟩

/-! ## Below an operator -/

section

variable {name : String} {args args' : List Datum}

/-- What is done with one argument is the same, and so is the error about another number of arguments. -/
theorem one_congr {f f' : Datum → Except ParseError Node} :
    args.length = args'.length → (∀ a a', args = [a] → args' = [a'] → f a = f' a') →
    (match args with
      | [a] => f a
      | _ => .error (countError name 1 args.length)) =
      match args' with
      | [a] => f' a
      | _ => .error (countError name 1 args'.length) := by
  intro count same
  match args, args', count with
  | [], [], _ => rfl
  | [a], [a'], _ => exact same a a' rfl rfl
  | _ :: _ :: _, _ :: _ :: _, count => exact congrArg (fun n => Except.error (countError name 1 n)) count

/-- So it is with two arguments. -/
theorem two_congr {f f' : Datum → Datum → Except ParseError Node} :
    args.length = args'.length → (∀ a b a' b', args = [a, b] → args' = [a', b'] → f a b = f' a' b') →
    (match args with
      | [a, b] => f a b
      | _ => .error (countError name 2 args.length)) =
      match args' with
      | [a, b] => f' a b
      | _ => .error (countError name 2 args'.length) := by
  intro count same
  match args, args', count with
  | [], [], _ => rfl
  | [_], [_], _ => rfl
  | [a, b], [a', b'], _ => exact same a b a' b' rfl rfl
  | _ :: _ :: _ :: _, _ :: _ :: _ :: _, count => exact congrArg (fun n => Except.error (countError name 2 n)) count

/-- And with three. -/
theorem three_congr {f f' : Datum → Datum → Datum → Except ParseError Node} :
    args.length = args'.length →
    (∀ a b c a' b' c', args = [a, b, c] → args' = [a', b', c'] → f a b c = f' a' b' c') →
    (match args with
      | [a, b, c] => f a b c
      | _ => .error (countError name 3 args.length)) =
      match args' with
      | [a, b, c] => f' a b c
      | _ => .error (countError name 3 args'.length) := by
  intro count same
  match args, args', count with
  | [], [], _ => rfl
  | [_], [_], _ => rfl
  | [_, _], [_, _], _ => rfl
  | [a, b, c], [a', b', c'], _ => exact same a b c a' b' c' rfl rfl
  | _ :: _ :: _ :: _ :: _, _ :: _ :: _ :: _ :: _, count => exact congrArg (fun n => Except.error (countError name 3 n)) count

end

section

variable {functions functions' : List String}

/-- Arguments stand side by side at one place. -/
theorem getElem?_of_mem_zip {args args' : List Datum} {pair : Datum × Datum} (member : pair ∈ args.zip args') :
    ∃ i : Nat, args[i]? = some pair.1 ∧ args'[i]? = some pair.2 := by
  obtain ⟨i, found⟩ := List.mem_iff_getElem?.1 member
  exact ⟨i, List.getElem?_zip_eq_some.1 found⟩

/-- Values to choose from that are recased and are read alike as a list are taken alike. -/
theorem values_congr {values values' : Datum} (name : String) (f : List Node → Node) :
    Recased .operand values values' →
    (∀ op, readAt functions op .operand values = readAt functions' op .operand values') →
    (match values with
      | .list items => (readOperands functions name items).map f
      | d => .error (.shape name (.valuesNotArray (Datum.jsonKind d)))) =
      match values' with
      | .list items => (readOperands functions' name items).map f
      | d => .error (.shape name (.valuesNotArray (Datum.jsonKind d))) := by
  intro differ reads
  have items {ds ds' : List Datum} (reads : readAt functions name .operand (.list ds) =
      readAt functions' name .operand (.list ds')) :
      (readOperands functions name ds).map f = (readOperands functions' name ds').map f := by
    rw [readAt, readAt, readOperand, readOperand] at reads
    rw [map_injective (fun _ _ => Node.array.inj) reads]
  cases differ with
  | same =>
    cases values with
    | list ds => exact items (reads name)
    | _ => rfl
  | list => exact items (reads name)
  | nested => rfl

/-- Below an operator, arguments that are recased and are read alike lead to the same tree or to the same error. -/
theorem readForm_congr {head : Head} {args args' : List Datum} (count : args.length = args'.length)
    (each : ∀ i position d d', head.place i = some position → args[i]? = some d → args'[i]? = some d' →
      Recased position d d' ∧ ∀ op, readAt functions op position d = readAt functions' op position d')
    (still : ∀ i, head.place i = none → args[i]? = args'[i]?) :
    readForm functions head [("args", .list args)] = readForm functions' head [("args", .list args')] := by
  have operand (i : Nat) {d d' : Datum} (place : head.place i = some .operand) (here : args[i]? = some d)
      (there : args'[i]? = some d') : readOperand functions head.name d = readOperand functions' head.name d' :=
    (each i .operand d d' place here there).2 head.name
  have all {position : Position} (place : ∀ i, head.place i = some position) :
      args.mapM (readAt functions head.name position) = args'.mapM (readAt functions' head.name position) := by
    refine mapM_congr count fun pair member => ?_
    obtain ⟨i, here, there⟩ := getElem?_of_mem_zip member
    exact (each i position _ _ (place i) here there).2 head.name
  rw [readForm.eq_def, readForm.eq_def functions']
  dsimp only
  rw [if_pos rfl, if_pos rfl]
  cases head with
  | core op =>
    cases op with
    | logical op =>
      cases op with
      | and =>
        dsimp only
        rw [readChildren_eq_mapM, readChildren_eq_mapM, all fun _ => rfl]
      | or =>
        dsimp only
        rw [readChildren_eq_mapM, readChildren_eq_mapM, all fun _ => rfl]
      | not =>
        refine one_congr count fun a a' h h' => ?_
        subst h h'
        exact congrArg (Except.map Node.not) ((each 0 .expression a a' rfl rfl rfl).2 _)
    | comparison op =>
      refine two_congr count fun a b a' b' h h' => ?_
      subst h h'
      have subject : a = a' := Option.some.inj (still 0 rfl)
      have right := operand 1 rfl rfl rfl
      rw [subject, right]
    | advanced op =>
      cases op with
      | like =>
        refine two_congr count fun a b a' b' h h' => ?_
        subst h h'
        have subject : a = a' := Option.some.inj (still 0 rfl)
        have pattern : b = b' := Option.some.inj (still 1 rfl)
        rw [subject, pattern]
      | between =>
        refine three_congr count fun a b c a' b' c' h h' => ?_
        subst h h'
        have subject : a = a' := Option.some.inj (still 0 rfl)
        have lower := operand 1 rfl rfl rfl
        have upper := operand 2 rfl rfl rfl
        rw [subject, lower, upper]
      | isIn =>
        refine two_congr count fun a b a' b' h h' => ?_
        subst h h'
        have subject : a = a' := Option.some.inj (still 0 rfl)
        obtain ⟨differ, reads⟩ := each 1 .operand b b' rfl rfl rfl
        rw [subject]
        exact congrArg _ (funext fun p => values_congr _ _ differ reads)
      | isNull =>
        refine one_congr count fun a a' h h' => ?_
        subst h h'
        have subject : a = a' := Option.some.inj (still 0 rfl)
        rw [subject]
    | spatial op =>
      refine two_congr count fun a b a' b' h h' => ?_
      subst h h'
      have subject : a = a' := Option.some.inj (still 0 rfl)
      have shape : b = b' := Option.some.inj (still 1 rfl)
      rw [subject, shape]
    | temporal op =>
      refine two_congr count fun a b a' b' h h' => ?_
      subst h h'
      have subject : a = a' := Option.some.inj (still 0 rfl)
      have time : b = b' := Option.some.inj (still 1 rfl)
      rw [subject, time]
    | array op =>
      refine two_congr count fun a b a' b' h h' => ?_
      subst h h'
      have left := operand 0 rfl rfl rfl
      have right := operand 1 rfl rfl rfl
      rw [left, right]
  | function name =>
    dsimp only
    rw [readOperands_eq_mapM, readOperands_eq_mapM]
    exact congrArg (· >>= Node.makeFunction name) (all fun _ => rfl)

/-! ## Objects -/

/-- Functions of the same names make the same heads. -/
theorem headOf_congr (sameNames : ∀ name, name ∈ functions ↔ name ∈ functions') (members : Members) :
    headOf functions members = headOf functions' members := by
  have contains (name : String) : functions.contains name = functions'.contains name := by
    rw [Bool.eq_iff_iff, List.contains_iff_mem, List.contains_iff_mem, sameNames]
  unfold headOf Head.ofName
  simp only [contains]

/-- Objects that are recased are read alike as expressions if their arguments are read alike. -/
theorem readChild_congr {members members' : Members} (sameNames : ∀ name, name ∈ functions ↔ name ∈ functions')
    (differ : Recased .expression (.object members) (.object members'))
    (below : ∀ args, members.lookup "args" = some (.list args) → ∀ d ∈ args, ∀ position d', Recased position d d' →
      ∀ op, readAt functions op position d = readAt functions' op position d') (op what : String) :
    readChild functions op what (.object members) = readChild functions' op what (.object members') := by
  rw [readChild, readChild, headOf_congr sameNames, ← differ.headOf_eq]
  cases found : headOf functions' members with
  | error e => rfl
  | ok head =>
    rw [ok_bind, ok_bind, readForm_eq_bind, readForm_eq_bind functions', argsOf, argsOf]
    have args := differ.args found
    generalize members.lookup "args" = value at args below
    generalize members'.lookup "args" = value' at args
    cases args with
    | same =>
      split
      · rename_i args
        refine readForm_congr rfl (fun i position d d' _ here there => ?_) fun _ _ => rfl
        cases here.symm.trans there
        exact ⟨.same d, below args rfl d (List.mem_of_getElem? here) position d (.same d)⟩
      · rfl
    | @lists args args' count each still =>
      refine readForm_congr count (fun i position d d' place here there => ?_) still
      have differs := each i position d d' place here there
      exact ⟨differs, below args rfl d (List.mem_of_getElem? here) position d' differs⟩

/-- What is made of an operand by another name than the operator's has nothing to do with functions. -/
theorem operandBy_congr {op key : String} {members : Members} {value : Datum}
    (leads : leading? operandKeys members = some (key, value)) (noOperator : key ≠ "op") :
    operandBy functions op members key value = operandBy functions' op members key value := by
  have among := mem_of_leading? leads
  simp only [operandKeys, List.mem_cons, List.not_mem_nil, or_false] at among
  rcases among with rfl | rfl | rfl | rfl | rfl | rfl | rfl
  · rfl
  · exact absurd rfl noOperator
  all_goals rfl

/-- Values that are recased are read alike, with functions of the same names. -/
theorem readAt_congr (sameNames : ∀ name, name ∈ functions ↔ name ∈ functions') {position : Position} {d d' : Datum}
    (differ : Recased position d d') (op : String) :
    readAt functions op position d = readAt functions' op position d' := by
  -- on the size of the value: the arguments of an object are not its direct parts
  induction size : sizeOf d using Nat.strongRecOn generalizing d d' position op with
  | ind size smaller =>
    subst size
    cases d with
    | object members =>
      have nested {members' : Members} (differ : Recased .expression (.object members) (.object members')) (op : String) :
          readAt functions op .expression (.object members) = readAt functions' op .expression (.object members') := by
        refine readChild_congr sameNames differ (fun args listed arg member position arg' differs op => ?_) op "child expression"
        have listSmaller := sizeOf_lt_of_lookup listed
        have argSmaller := List.sizeOf_lt_of_mem member
        rw [Data.list.sizeOf_spec] at listSmaller
        exact smaller (sizeOf arg) (by omega) differs op rfl
      cases position with
      | expression =>
        obtain rfl | ⟨_, members', ⟨⟩, rfl⟩ := differ.eq_or_objects
        · exact nested differ op
        · exact nested differ op
      | operand =>
        rw [readAt, readAt]
        cases differ with
        | same =>
          rw [readOperand_object, readOperand_object, readFirst, readFirst]
          cases leads : leading? operandKeys members with
          | none => rfl
          | some first =>
            obtain ⟨key, value⟩ := first
            by_cases operator : key = "op"
            · subst operator
              exact nested (.same _) op
            · exact operandBy_congr leads operator
        | nested leads differ =>
          obtain ⟨value', leads'⟩ := differ.leads leads
          rw [readOperand_object, readOperand_object, readFirst, readFirst, leads, leads']
          exact nested differ op
    | list items =>
      cases position with
      | expression =>
        cases differ
        rfl
      | operand =>
        have items {items' : List Datum} (count : items.length = items'.length)
            (each : ∀ pair ∈ items.zip items', Recased .operand pair.1 pair.2) :
            readAt functions op .operand (.list items) = readAt functions' op .operand (.list items') := by
          rw [readAt, readAt, readOperand, readOperand, readOperands_eq_mapM, readOperands_eq_mapM]
          refine congrArg _ (mapM_congr count fun pair member => ?_)
          have itemSmaller := List.sizeOf_lt_of_mem (List.of_mem_zip member).1
          rw [Data.list.sizeOf_spec] at smaller
          exact smaller (sizeOf pair.1) (by omega) (each pair member) op rfl
        cases differ with
        | same =>
          refine items rfl fun pair member => ?_
          obtain ⟨i, here, there⟩ := getElem?_of_mem_zip member
          rw [Option.some.inj (here.symm.trans there)]
          exact .same _
        | list count each => exact items count each
    | _ =>
      cases differ
      cases position <;> rfl

end

/-! ## Documents -/

section

variable {names names' : List String} {d d' : Datum}

/-- A decoded document is read as an expression, whatever an error about its kind would be called. -/
theorem read_recased (sameNames : ∀ name, name ∈ names.map Text.lower ↔ name ∈ names'.map Text.lower)
    (differ : Recased .expression d d') : read names d = read names' d' := by
  have objects {members members' : Members} (differ : Recased .expression (.object members) (.object members')) :
      read names (.object members) = read names' (.object members') := by
    have alike := readAt_congr sameNames differ "filter"
    rw [readAt, readAt, readChild, readChild] at alike
    rw [read, read, readChild, readChild]
    exact alike
  obtain rfl | ⟨members, members', rfl, rfl⟩ := differ.eq_or_objects
  · cases d with
    | object members => exact objects differ
    | _ => rfl
  · exact objects differ

/-- Documents that differ in the letter case of operators only, as far as they are read as such, are read as one tree or with one
error, and so they are with functions whose names are the same in lower case. -/
theorem readAny_recased (sameNames : ∀ name, name ∈ names.map Text.lower ↔ name ∈ names'.map Text.lower)
    (differ : Recased .expression d d') : readAny names d = readAny names' d' := by
  obtain rfl | ⟨members, members', rfl, rfl⟩ := differ.eq_or_objects
  · cases d with
    | str text =>
      rw [readAny, readAny, readText, readText]
      cases Json.read .strict text with
      | none => rfl
      | some document => exact read_recased sameNames (.same document)
    | _ => exact read_recased sameNames differ
  · exact read_recased sameNames differ

end

/-- A function call with the letters of its name in either case. -/
def calling (name : String) : Members :=
  [("op", .str name), ("args", .list [.str "Ü"])]

theorem recased_calling : Recased .operand (.object (calling "CaseI")) (.object (calling "casei")) := by
  have others : ∀ name, name ≠ "op" → (calling "CaseI").lookup name = (calling "casei").lookup name := by
    intro name other
    simp only [calling, List.lookup_cons, beq_eq_false_iff_ne.2 other]
  exact .nested rfl (.operator rfl rfl (by decide) others)

/-- A comparison with such a call. -/
theorem readAny_recased_calling :
    let compared (call : Members) : Datum :=
      .object [("op", .str "="), ("args", .list [.object [("property", .str "title")], .object call])]
    readAny ["casei"] (compared (calling "CaseI")) = readAny ["CASEI"] (compared (calling "casei")) := by
  have sameNames : ["casei"].map Text.lower = ["CASEI"].map Text.lower := by decide
  refine readAny_recased (fun name => by rw [sameNames]) ?_
  refine .arguments rfl rfl rfl rfl rfl (fun name noOp noArgs => ?_) rfl (fun i position d d' place here there => ?_)
    fun i place => ?_
  · simp only [List.lookup_cons, beq_eq_false_iff_ne.2 noOp, beq_eq_false_iff_ne.2 noArgs]
  · match i with
    | 0 => cases place
    | 1 =>
      cases place
      cases here
      cases there
      exact recased_calling
    | i + 2 => cases here
  · match i with
    | 0 => rfl
    | 1 => cases place
    | i + 2 => rfl

end CatalogFilter.Document
