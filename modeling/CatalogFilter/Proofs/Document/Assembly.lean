import CatalogFilter.Document.Assembly
import CatalogFilter.Proofs.Datum.Printable
import CatalogFilter.Proofs.Document.Image
import CatalogFilter.Proofs.Node.Construct

/-!
# How an assembly can end

* `ParseError.Apt` — what is asked of an error about a document that could be decoded.
* `Follows` — a step of the assembly ends as a reader does, and the reader's errors are apt.
* `follows_property`, `follows_handleComparison` and their like — each step follows its reader: no member or item
  that is looked up is missing, and no constructor or conversion refuses what it is given.
* `Document.assemble_eq` — the assembly of a document ends in the tree that is read from it, or for the same cause.
* `ParseError.ShowsEndless` — an error for which there are no words.
* `Document.assemble_ends` — every assembly ends in a tree, by an error of reading, or by the one of too many digits, and
  when by which.
-/

namespace CatalogFilter

open Outcome

/-- What is asked of an error about a decoded document: it is not that there is no JSON, and where arguments were
counted, their number is not one of those expected. -/
def ParseError.Apt : ParseError → Prop
  | .malformed => False
  | .arity _ expected got =>
    (∃ k : Nat, expected = .num (.int k) ∧ got ≠ k) ∨ expected = .str "4 or 6" ∧ got ≠ 4 ∧ got ≠ 6
  | _ => True

/-- Whether an error is about what stands in the place of a time, is no text, and cannot be shown for the digits of an
integer in it. -/
def ParseError.ShowsEndless (e : ParseError) : Prop :=
  ∃ op value, value.isPrintable = false ∧ (e = .time op (.notTimestampText value) ∨ e = .time op (.notDateText value))

/-- Only such errors cannot be put into words. -/
theorem ParseError.isWorded_eq_false_iff {e : ParseError} : e.isWorded = false ↔ e.ShowsEndless := by
  constructor
  · intro wordless
    cases e with
    | time op fault =>
      cases fault with
      | notTimestampText value => exact ⟨op, value, wordless, .inl rfl⟩
      | notDateText value => exact ⟨op, value, wordless, .inr rfl⟩
      | _ => cases wordless
    | _ => cases wordless
  · rintro ⟨op, value, long, rfl | rfl⟩ <;> exact long

/-! ## Groups of operators -/

/-- An operator of a group is found by its symbol. -/
theorem ComparisonOp.ofSymbol?_symbol (o : ComparisonOp) : ofSymbol? o.symbol = some o := by
  cases o <;> decide

theorem SpatialOp.ofSymbol?_symbol (o : SpatialOp) : ofSymbol? o.symbol = some o := by
  cases o <;> decide

theorem TemporalOp.ofSymbol?_symbol (o : TemporalOp) : ofSymbol? o.symbol = some o := by
  cases o <;> decide

theorem ArrayOp.ofSymbol?_symbol (o : ArrayOp) : ofSymbol? o.symbol = some o := by
  cases o <;> decide

namespace Document

/-! ## Steps and readers -/

section Steps

variable {α β γ : Type}

theorem liftError_eq_ok {x : Except Error α} {a : α} : liftError x = .ok a ↔ x = .ok a :=
  mapError_eq_ok

/-- An error of reading is the same stop either way. -/
theorem liftError_liftParse (x : Except ParseError α) : liftError (liftParse x) = liftStop x := by
  cases x <;> rfl

/-- A step ends in what `h` makes of a reader's result, or by the reader's error, which is apt. -/
structure Follows (h : β → α) (step : Except Stop α) (reader : Except ParseError β) : Prop where
  same : step = liftStop (reader.map h)
  apt : ∀ e, reader = .error e → e.Apt

namespace Follows

variable {h : β → α}

theorem ok (b : β) : Follows h (.ok (h b)) (.ok b) :=
  ⟨rfl, nofun⟩

theorem refuse {e : ParseError} (apt : e.Apt) : Follows h (refuse e) (.error e) where
  same := rfl
  apt := by
    rintro _ ⟨⟩
    exact apt

/-- A reader follows itself if its errors are apt. -/
theorem of_apt {x : Except ParseError α} (apt : ∀ e, x = .error e → e.Apt) : Follows id (liftStop x) x where
  same := by cases x <;> rfl
  apt := apt

/-- A first step and others follow a first reader and others. -/
theorem bind {δ : Type} {h' : γ → δ} {y : Except Stop α} {x : Except ParseError β} {g : α → Except Stop δ}
    {f : β → Except ParseError γ} (first : Follows h y x) (rest : ∀ b, x = .ok b → Follows h' (g (h b)) (f b)) :
    Follows h' (y >>= g) (x >>= f) := by
  obtain ⟨rfl, apt⟩ := first
  cases x with
  | error e => exact .refuse (apt e rfl)
  | ok b => exact rest b rfl

/-- A last step that cannot stop may follow a change of the reader's result. -/
theorem bind_map {δ : Type} {h' : γ → δ} {y : Except Stop α} {x : Except ParseError β} {g : α → Except Stop δ}
    {f : β → γ} (first : Follows h y x) (rest : ∀ b, x = .ok b → g (h b) = .ok (h' (f b))) :
    Follows h' (y >>= g) (x.map f) := by
  obtain ⟨rfl, apt⟩ := first
  cases x with
  | error e => exact .refuse (apt e rfl)
  | ok b =>
    have last : g (h b) = .ok (h' (f b)) := rest b rfl
    exact ⟨last, nofun⟩

/-- A reader whose result is used by steps that cannot stop. -/
theorem checked {x : Except ParseError β} {g : β → Except Stop α} (apt : ∀ e, x = .error e → e.Apt)
    (rest : ∀ b, g b = .ok (h b)) : Follows h (liftStop x >>= g) x where
  same := by
    cases x with
    | error e => rfl
    | ok b => exact rest b
  apt := apt

/-- What becomes of a result can be counted to the reader. -/
theorem mapped {h' : γ → α} {f : β → γ} {y : Except Stop α} {x : Except ParseError β}
    (follows : Follows (fun b => h' (f b)) y x) : Follows h' y (x.map f) := by
  obtain ⟨rfl, apt⟩ := follows
  cases x with
  | error e => exact .refuse (apt e rfl)
  | ok b => exact .ok (f b)

end Follows

end Steps

/-! ## Looking up -/

/-- A member that is there is found. -/
theorem subscript_of_has {members : Members} {name : String} (h : has members name = true) :
    subscript members name = .ok (valueOf members name) := by
  obtain ⟨value, found⟩ := has_eq_true.1 h
  rw [subscript, found, valueOf_of_lookup found]

/-- A member whose value is not null is there. -/
theorem has_of_valueOf {members : Members} {name : String} (h : valueOf members name ≠ .null) :
    has members name = true := by
  rw [has_eq_isSome, Option.isSome_iff_ne_none]
  intro missing
  rw [valueOf, missing] at h
  exact h rfl

theorem itemAt_zero {α : Type} (a : α) (rest : List α) : itemAt (a :: rest) 0 = .ok a := rfl

theorem itemAt_one {α : Type} (a b : α) (rest : List α) : itemAt (a :: b :: rest) 1 = .ok b := rfl

theorem itemAt_two {α : Type} (a b c : α) (rest : List α) : itemAt (a :: b :: c :: rest) 2 = .ok c := rfl

/-! ## Parts without expressions -/

/-- A name is made a property if it is not empty. -/
theorem follows_propertyName {op : String} {members : Members} (h : has members "property" = true) (what : String) :
    Follows .property (assembleProperty op (.object members) what)
      (readPropertyName op (valueOf members "property")) := by
  rw [assembleProperty, if_pos h, subscript_of_has h, ok_bind]
  cases valueOf members "property" with
  | str name =>
    rw [readPropertyName]
    dsimp only
    by_cases empty : name = ""
    · rw [if_pos empty, if_pos empty]
      exact .refuse trivial
    · have made : Construct.property (.str name) = .ok (.property ⟨name⟩) :=
        Construct.property_eq_ok.2 ⟨name, rfl, empty, rfl⟩
      rw [if_neg empty, if_neg empty, made]
      exact .ok (Property.mk name)
  | _ => exact .refuse trivial

/-- An object without a name is no property. -/
theorem follows_property (op : String) (value : Datum) (what : String) :
    Follows .property (assembleProperty op value what) (readProperty op value what) := by
  cases value with
  | object members =>
    rw [readProperty]
    cases found : members.lookup "property" with
    | some name =>
      have h : has members "property" = true := has_eq_true.2 ⟨name, found⟩
      have named : Follows .property (assembleProperty op (.object members) what)
          (readPropertyName op (valueOf members "property")) := follows_propertyName h what
      rw [valueOf_of_lookup found] at named
      exact named
    | none =>
      have h : ¬ has members "property" = true := by
        rw [has_eq_false.2 found]
        exact Bool.false_ne_true
      rw [assembleProperty, if_neg h]
      exact .refuse trivial
  | _ => exact .refuse trivial

/-- An error about a timestamp is about its form. -/
theorem apt_readTimestamp {op : String} {value : Datum} {e : ParseError} (h : readTimestamp op value = .error e) :
    e.Apt := by
  unfold readTimestamp at h
  split at h
  · obtain ⟨cause, -, rfl⟩ := mapError_eq_error.1 h
    trivial
  · cases h
    trivial

theorem apt_readDate {op : String} {value : Datum} {e : ParseError} (h : readDate op value = .error e) : e.Apt := by
  unfold readDate at h
  split at h
  · split at h
    · obtain ⟨cause, -, rfl⟩ := mapError_eq_error.1 h
      trivial
    · cases h
      trivial
  · cases h
    trivial

theorem apt_readBound {op : String} {value : Datum} {e : ParseError} (h : readBound op value = .error e) :
    e.Apt := by
  unfold readBound at h
  split at h
  · cases h
  · split at h
    · cases h
    · exact apt_readTimestamp (map_eq_error.1 h)
  · exact apt_readTimestamp (map_eq_error.1 h)

section Times

variable {op : String} {members : Members}

/-- A time that was read is made a timestamp. -/
theorem follows_timestamp (h : has members "timestamp" = true) :
    Follows .timestamp (assembleTimestamp op members) (readTimestamp op (valueOf members "timestamp")) := by
  rw [assembleTimestamp, subscript_of_has h, ok_bind]
  exact .checked (fun e => apt_readTimestamp) fun t => rfl

/-- A date that was read is made a date. -/
theorem follows_date (h : has members "date" = true) :
    Follows .date (assembleDate op members) (readDate op (valueOf members "date")) := by
  rw [assembleDate, subscript_of_has h, ok_bind]
  exact .checked (fun e => apt_readDate) fun d => rfl

theorem requireArity_one {α β : Type} (a : α) (next : Unit → Except Stop β) :
    requireArity op [a] 1 >>= next = next () := rfl

theorem requireArity_two {α β : Type} (a b : α) (next : Unit → Except Stop β) :
    requireArity op [a, b] 2 >>= next = next () := rfl

theorem requireArity_three {α β : Type} (a b c : α) (next : Unit → Except Stop β) :
    requireArity op [a, b, c] 3 >>= next = next () := rfl

/-- A wrong count is an error either way. -/
theorem follows_count {α β : Type} {h : β → α} {expected got : Nat} (wrong : got ≠ expected) :
    Follows h (refuse (countError op expected got)) (.error (countError op expected got)) :=
  .refuse (.inl ⟨expected, rfl, wrong⟩)

/-- After a wrong count nothing is looked up. -/
theorem requireArity_bind_of_ne {α β : Type} {args : List α} {expected : Nat} (wrong : args.length ≠ expected)
    (next : Unit → Except Stop β) :
    requireArity op args expected >>= next = refuse (countError op expected args.length) := by
  rw [requireArity, if_neg wrong]
  rfl

/-- Both ends of an interval are times with an offset, or open. -/
theorem interval_offerBound (start stop : Option OffsetDateTime) :
    Construct.interval (offerBound start) (offerBound stop) = .ok (.interval start stop) := by
  cases start <;> cases stop <;> rfl

/-- Two ends that were read are made an interval. -/
theorem follows_interval (h : has members "interval" = true) :
    Follows (fun ends => .interval ends.1 ends.2) (assembleInterval op members)
      (readInterval op (valueOf members "interval")) := by
  rw [assembleInterval, subscript_of_has h, ok_bind]
  cases valueOf members "interval" with
  | list bounds =>
    -- Only two items pass the count; behind it both places are there, so neither lookup can miss.
    rcases bounds with _ | ⟨start, _ | ⟨stop, _ | ⟨more, rest⟩⟩⟩
    · exact follows_count (by simp)
    · exact follows_count (by simp)
    · dsimp only
      rw [requireArity_two, itemAt_zero, ok_bind]
      refine Follows.bind (.of_apt fun e => apt_readBound) fun first _ => ?_
      rw [itemAt_one, ok_bind]
      refine Follows.bind (.of_apt fun e => apt_readBound) fun last _ => ?_
      dsimp only [id]
      rw [interval_offerBound]
      exact .ok (first, last)
    · have wrong : (start :: stop :: more :: rest).length ≠ 2 := by simp
      dsimp only
      rw [requireArity_bind_of_ne wrong]
      exact follows_count wrong
  | _ => exact .refuse trivial

end Times

section Shapes

variable {op : String} {members : Members}

/-- An error about a list of numbers is about its count or about an item. -/
theorem apt_makeBox {items : List Datum} {e : ParseError} (h : Node.makeBox items = .error e) : e.Apt := by
  unfold Node.makeBox at h
  split at h
  · rename_i wrong
    cases h
    exact .inr ⟨rfl, wrong⟩
  · split at h
    · cases h
    · cases h
      trivial
    · cases h
      trivial

theorem apt_makeOwnBox {items : List Datum} {e : ParseError} (h : Geometry.makeBox items = .error e) : e.Apt := by
  unfold Geometry.makeBox at h
  split at h
  · cases h
    trivial
  · split at h
    · cases h
    · cases h
      trivial
    · cases h
      trivial

theorem apt_makeGeometry {type : String} {coordinates : Datum} {bbox : Option (List Datum)} {e : ParseError}
    (h : Geometry.make type coordinates bbox = .error e) : e.Apt := by
  unfold Geometry.make at h
  split at h
  · cases h
    trivial
  · split at h
    · cases h
      trivial
    · split at h
      · cases h
      · exact apt_makeOwnBox (map_eq_error.1 h)

/-- Decoded items are offered one by one. -/
theorem map_toDatum_ofDatum (items : List Datum) :
    (Data.mapAll Offered.foreign items).map Value.toDatum = items := by
  rw [Data.mapAll_eq_map, List.map_map]
  have same : Value.toDatum ∘ Data.map Offered.foreign = id := funext Value.toDatum_ofDatum
  rw [same, List.map_id]

/-- A list of numbers is made a box. -/
theorem follows_box (h : has members "bbox" = true) :
    Follows .bbox (assembleBox op members) (readBox op (valueOf members "bbox")) := by
  rw [assembleBox, subscript_of_has h, ok_bind]
  cases valueOf members "bbox" with
  | list items =>
    have made : Construct.box (.ofDatum (.list items)) = liftParse ((Node.makeBox items).map .bbox) := by
      have offered : Construct.box (.ofDatum (.list items)) =
          liftParse ((Node.makeBox ((Data.mapAll Offered.foreign items).map Value.toDatum)).map .bbox) := rfl
      rw [offered, map_toDatum_ofDatum]
    dsimp only
    rw [made, liftError_liftParse, readBox]
    exact ⟨rfl, fun e => apt_makeBox⟩
  | _ => exact .refuse trivial

/-- A type and coordinates are made a geometry, with a box of its own or without one. -/
theorem follows_makeGeometry {type : String} {coordinates bbox : Datum} {items : Option (List Datum)}
    (boxed : bbox = .null ∧ items = none ∨ ∃ all, (bbox = .list all ∨ bbox = .tuple all) ∧ items = some all) :
    Follows .geometry (liftError (Construct.geometry (.str type) (.ofDatum coordinates) (.ofDatum bbox)))
      (Geometry.make type coordinates items) := by
  have made : Construct.geometry (.str type) (.ofDatum coordinates) (.ofDatum bbox) =
      liftParse ((Geometry.make type coordinates items).map .geometry) := by
    rcases boxed with ⟨rfl, rfl⟩ | ⟨all, listed, rfl⟩
    · have offered : Construct.geometry (.str type) (.ofDatum coordinates) (.ofDatum .null) =
          liftParse ((Geometry.make type (Value.ofDatum coordinates).toDatum none).map .geometry) := rfl
      rw [offered, Value.toDatum_ofDatum]
    · have offered : Construct.geometry (.str type) (.ofDatum coordinates) (.ofDatum bbox) =
          liftParse ((Geometry.make type (Value.ofDatum coordinates).toDatum
            (some ((Data.mapAll Offered.foreign all).map Value.toDatum))).map .geometry) := by
        rcases listed with rfl | rfl <;> rfl
      rw [offered, Value.toDatum_ofDatum, map_toDatum_ofDatum]
  rw [made, liftError_liftParse]
  exact ⟨rfl, fun e => apt_makeGeometry⟩

/-- With a type and coordinates, only the box of its own is left to read. -/
theorem readGeometry_of_located {type : String} (typed : valueOf members "type" = .str type) (notEmpty : type ≠ "")
    (located : valueOf members "coordinates" ≠ .null) :
    readGeometry op (.object members) =
      match valueOf members "bbox" with
      | .null => Geometry.make type (valueOf members "coordinates") none
      | .list items => Geometry.make type (valueOf members "coordinates") (some items)
      | .tuple items => Geometry.make type (valueOf members "coordinates") (some items)
      | _ => .error (.geometry op .bboxNotArray) := by
  rw [readGeometry, typed]
  dsimp only
  rw [if_neg notEmpty]
  split
  · rename_i null
    exact absurd null located
  · rfl

/-- A geometry is made of the members that it is read from. -/
theorem follows_geometry (value : Datum) : Follows .geometry (assembleGeometry op value) (readGeometry op value) := by
  cases value with
  | object members =>
    rw [assembleGeometry]
    cases typed : valueOf members "type" with
    | str type =>
      dsimp only
      by_cases empty : type = ""
      · rw [if_pos empty, readGeometry, typed]
        dsimp only
        rw [if_pos empty]
        exact .refuse trivial
      · rw [if_neg empty]
        split
        · rename_i null
          rw [readGeometry, typed]
          dsimp only
          rw [if_neg empty, null]
          exact .refuse trivial
        · rename_i located
          -- The check reads the member as null if it is missing, so behind it the member is there.
          rw [readGeometry_of_located typed empty located, subscript_of_has (has_of_valueOf located), ok_bind]
          cases valueOf members "bbox" with
          | null => exact follows_makeGeometry (.inl ⟨rfl, rfl⟩)
          | list all => exact follows_makeGeometry (.inr ⟨all, .inl rfl, rfl⟩)
          | tuple all => exact follows_makeGeometry (.inr ⟨all, .inr rfl, rfl⟩)
          | _ => exact .refuse trivial
    | _ =>
      rw [readGeometry, typed]
      exact .refuse trivial
  | _ => exact .refuse trivial

/-- A shape is made of what it is read from. -/
theorem follows_shape (value : Datum) : Follows Shape.toNode (assembleShape op value) (readShape op value) := by
  cases value with
  | object members =>
    rw [assembleShape, readShape]
    by_cases boxed : (has members "bbox" && !has members "type") = true
    · have h : has members "bbox" = true := (Bool.and_eq_true_iff.1 boxed).1
      rw [if_pos boxed, if_pos boxed]
      exact .mapped (follows_box h)
    · rw [if_neg boxed, if_neg boxed]
      exact .mapped (follows_geometry _)
  | _ => exact .refuse trivial

/-- A time is made of what it is read from. -/
theorem follows_instant (value : Datum) : Follows Instant.toNode (assembleInstant op value) (readInstant op value) := by
  cases value with
  | object members =>
    rw [assembleInstant, readInstant]
    by_cases interval : has members "interval" = true
    · rw [if_pos interval, if_pos interval]
      exact .mapped (follows_interval interval)
    rw [if_neg interval, if_neg interval]
    by_cases timestamp : has members "timestamp" = true
    · rw [if_pos timestamp, if_pos timestamp]
      exact .mapped (follows_timestamp timestamp)
    rw [if_neg timestamp, if_neg timestamp]
    by_cases date : has members "date" = true
    · rw [if_pos date, if_pos date]
      exact .mapped (follows_date date)
    rw [if_neg date, if_neg date]
    exact .refuse trivial
  | _ => exact .refuse trivial

end Shapes

/-! ## Operators -/

/-- How many arguments an operator takes, if not any number of them. -/
def Head.arity? : Head → Option Nat
  | .core (.logical .not) => some 1
  | .core (.logical _) => none
  | .core (.comparison _) => some 2
  | .core (.advanced .between) => some 3
  | .core (.advanced .like) => some 2
  | .core (.advanced .isIn) => some 2
  | .core (.advanced .isNull) => some 1
  | .core (.spatial _) => some 2
  | .core (.temporal _) => some 2
  | .core (.array _) => some 2
  | .function _ => none

/-- A number of arguments that an operator does not take is an error of its own, whatever the arguments are. -/
theorem readForm_wrongCount {functions : List String} {head : Head} {expected : Nat} {ds : List Datum}
    (arity : head.arity? = some expected) (wrong : ds.length ≠ expected) :
    readForm functions head [("args", .list ds)] = .error (countError head.name expected ds.length) := by
  rw [readForm.eq_def]
  dsimp only
  rw [if_pos rfl]
  unfold Head.arity? at arity
  -- One goal for each operator of fixed arity: its reader takes a list of that length apart, or else counts.
  split at arity
  all_goals cases arity
  all_goals
    dsimp only
    split
    · exact absurd rfl wrong
    · rfl

/-- An argument ends in each position as the reader of its value does. -/
structure Argument.Follows (functions : List String) (a : Argument) (d : Datum) : Prop where
  value : a.value = d
  expression : ∀ op, Document.Follows id (a.expression op) (readChild functions op "child expression" d)
  operand : ∀ op, Document.Follows id (a.operand op) (readOperand functions op d)
  operands : ∀ op items, d = .list items → Document.Follows id (a.operands op) (readOperands functions op items)

/-- Of two arguments the first comes first. -/
theorem forEach_pair_bind {α : Type} (step : Argument → Except Stop Node) (a b : Argument)
    (next : List Node → Except Stop α) :
    forEach step [a, b] >>= next = step a >>= fun l => step b >>= fun r => next [l, r] := by
  unfold forEach forEach forEach
  cases step a with
  | error stop => rfl
  | ok l => cases step b <;> rfl

/-- An operand that is an object with a name may be made a property at once. -/
theorem follows_right {functions : List String} {a : Argument} {d : Datum} (follows : a.Follows functions d)
    (op : String) : Follows id (assembleRight op a) (readOperand functions op d) := by
  rw [assembleRight, follows.value]
  by_cases named : isPropertyObject d = true
  · rw [if_pos named]
    cases d with
    | object members =>
      have h : has members "property" = true := named
      rw [readOperand, if_pos h]
      exact .mapped (follows_propertyName h _)
    | _ => cases named
  · rw [if_neg named]
    exact follows.operand op

/-- Two nodes are related as arrays if both may be sides. -/
theorem follows_arrayRelation (o : ArrayOp) (left right : Node) :
    Follows id (do
      requireSide o.symbol left
      requireSide o.symbol right
      liftError (Construct.arrayComparison (.str o.symbol) (.ofNode left) (.ofNode right)))
      (arrayRelation o left right) := by
  unfold requireSide arrayRelation
  cases leftSide : left.isArraySide with
  | false => exact .refuse trivial
  | true =>
    cases rightSide : right.isArraySide with
    | false => exact .refuse trivial
    | true =>
      -- The constructor checks the sides once more, and they pass again.
      have made : Construct.arrayComparison (.str o.symbol) (.ofNode left) (.ofNode right) =
          .ok (.arrayComparison o left right) :=
        Construct.arrayComparison_eq_ok.2
          ⟨_, o, left, right, rfl, ArrayOp.ofSymbol?_symbol o, rfl, leftSide, rfl, rightSide, rfl⟩
      rw [made]
      exact .ok (Node.arrayComparison o left right)

/-- A function is made of its name and nodes, unless the name is empty or that of an operator. -/
theorem follows_makeFunction (name : String) (ns : List Node) :
    Follows id (liftError (Construct.function (.str name) (offerAll ns))) (Node.makeFunction name ns) := by
  have args : Construct.each (Construct.node "function" "args") (ns.map .ofNode) = .ok ns :=
    Construct.each_node_eq_ok.2 rfl
  have made : Construct.function (.str name) (offerAll ns) = liftParse (Node.makeFunction name ns) := by
    have checked : Construct.function (.str name) (offerAll ns) = (do
        liftParse (checkFunctionName name)
        liftParse ((Construct.each (Construct.node "function" "args") (ns.map .ofNode)).map (.function name))) := rfl
    rw [checked, args, Node.makeFunction]
    cases checkFunctionName name <;> rfl
  rw [made, liftError_liftParse]
  refine .of_apt fun e failed => ?_
  have refused : checkFunctionName name = .error e := map_eq_error.1 failed
  unfold checkFunctionName at refused
  split_ifs at refused
  · cases refused
    trivial
  · cases refused
    trivial

section Handlers

variable {functions : List String} {as : List Argument} {ds : List Datum}
  (follow : List.Forall₂ (Argument.Follows functions) as ds)

include follow

/-- Arguments that are expressions follow their readers one after the other. -/
theorem follows_forEach_expression (op : String) :
    Follows id (forEach (·.expression op) as) (readChildren functions op ds) := by
  induction follow with
  | nil => exact .ok []
  | cons first _ ih =>
    refine (first.expression op).bind fun n _ => ?_
    exact ih.bind fun ns _ => .ok (n :: ns)

/-- Arguments that are operands follow their readers one after the other. -/
theorem follows_forEach_operand (op : String) :
    Follows id (forEach (·.operand op) as) (readOperands functions op ds) := by
  induction follow with
  | nil => exact .ok []
  | cons first _ ih =>
    refine (first.operand op).bind fun n _ => ?_
    exact ih.bind fun ns _ => .ok (n :: ns)

/-- The handler of an operator of one argument follows the reader if it does for one. -/
theorem follows_one (head : Head) (arity : head.arity? = some 1) {handler : List Argument → Except Stop Node}
    (refuses : ∀ args, args.length ≠ 1 → handler args = refuse (countError head.name 1 args.length))
    (main : ∀ a d, a.Follows functions d → Follows id (handler [a]) (readForm functions head [("args", .list [d])])) :
    Follows id (handler as) (readForm functions head [("args", .list ds)]) := by
  by_cases right : ds.length = 1
  · obtain ⟨d, rfl⟩ := List.length_eq_one_iff.1 right
    obtain _ | ⟨only, ⟨⟩⟩ := follow
    exact main _ d only
  · have same : as.length = ds.length := follow.length_eq
    rw [refuses as (same ▸ right), readForm_wrongCount arity right, same]
    exact follows_count right

/-- The handler of an operator of two arguments follows the reader if it does for two. -/
theorem follows_two (head : Head) (arity : head.arity? = some 2) {handler : List Argument → Except Stop Node}
    (refuses : ∀ args, args.length ≠ 2 → handler args = refuse (countError head.name 2 args.length))
    (main : ∀ a b d e, a.Follows functions d → b.Follows functions e →
      Follows id (handler [a, b]) (readForm functions head [("args", .list [d, e])])) :
    Follows id (handler as) (readForm functions head [("args", .list ds)]) := by
  by_cases right : ds.length = 2
  · obtain ⟨d, e, rfl⟩ := List.length_eq_two.1 right
    obtain _ | ⟨first, _ | ⟨second, ⟨⟩⟩⟩ := follow
    exact main _ _ d e first second
  · have same : as.length = ds.length := follow.length_eq
    rw [refuses as (same ▸ right), readForm_wrongCount arity right, same]
    exact follows_count right

/-- The handler of an operator of three arguments follows the reader if it does for three. -/
theorem follows_three (head : Head) (arity : head.arity? = some 3) {handler : List Argument → Except Stop Node}
    (refuses : ∀ args, args.length ≠ 3 → handler args = refuse (countError head.name 3 args.length))
    (main : ∀ a b c d e f, a.Follows functions d → b.Follows functions e → c.Follows functions f →
      Follows id (handler [a, b, c]) (readForm functions head [("args", .list [d, e, f])])) :
    Follows id (handler as) (readForm functions head [("args", .list ds)]) := by
  by_cases right : ds.length = 3
  · obtain ⟨d, e, f, rfl⟩ := List.length_eq_three.1 right
    obtain _ | ⟨first, _ | ⟨second, _ | ⟨third, ⟨⟩⟩⟩⟩ := follow
    exact main _ _ _ d e f first second third
  · have same : as.length = ds.length := follow.length_eq
    rw [refuses as (same ▸ right), readForm_wrongCount arity right, same]
    exact follows_count right

/-- All arguments are joined by a connective. -/
theorem follows_handleLogical {op : String} {construct : List Value → Except ParseError Node}
    {make : List Node → Node}
    (made : ∀ ns : List Node, (∀ n ∈ ns, n.isExpression = true) → construct (ns.map .ofNode) = .ok (make ns)) :
    Follows id (handleLogical op construct as) ((readChildren functions op ds).map make) := by
  rw [handleLogical]
  refine (follows_forEach_expression follow op).bind_map fun ns read => ?_
  -- The constructor asks for expressions, and whatever was read in the place of one is one.
  obtain ⟨count, each⟩ := readChildren_eq_ok.1 read
  have expressions : ∀ n ∈ ns, n.isExpression = true :=
    forall_snd_of_zip count fun pair mem => (reads_of_readAt (each pair mem)).isExpression
  dsimp only [id]
  rw [made ns expressions]
  rfl

/-- The only argument is negated. -/
theorem follows_handleNot :
    Follows id (handleNot (Head.core (.logical .not)).name as)
      (readForm functions (.core (.logical .not)) [("args", .list ds)]) := by
  refine follows_one follow (.core (.logical .not)) rfl (fun _ wrong => requireArity_bind_of_ne wrong _)
    fun a child only => ?_
  rw [readForm.eq_def]
  dsimp only
  rw [if_pos rfl, handleNot, requireArity_one, itemAt_zero, ok_bind]
  refine (only.expression _).bind_map fun n read => ?_
  have isRead : readAt functions (Head.core (.logical .not)).name .expression child = .ok n := read
  have made : Construct.negation (.ofNode n) = .ok (.not n) :=
    Construct.negation_eq_ok.2 ⟨n, rfl, (reads_of_readAt isRead).isExpression, rfl⟩
  dsimp only [id]
  rw [made]
  rfl

/-- A property is compared with an operand. -/
theorem follows_handleComparison (o : ComparisonOp) :
    Follows id (handleComparison (Head.core (.comparison o)).name as)
      (readForm functions (.core (.comparison o)) [("args", .list ds)]) := by
  refine follows_two follow (.core (.comparison o)) rfl (fun _ wrong => requireArity_bind_of_ne wrong _)
    fun a b left right first second => ?_
  rw [readForm.eq_def]
  dsimp only
  rw [if_pos rfl, handleComparison, requireArity_two, itemAt_zero, ok_bind, first.value]
  refine (follows_property _ left _).bind fun p _ => ?_
  rw [itemAt_one, ok_bind]
  refine (follows_right second _).bind fun m _ => ?_
  have made : Construct.comparison (.str o.symbol) (.ofNode (.property p)) (.ofNode m) = .ok (.comparison o p m) :=
    Construct.comparison_eq_ok.2 ⟨_, o, p, m, rfl, ComparisonOp.ofSymbol?_symbol o, rfl, rfl, rfl⟩
  dsimp only [id]
  rw [Head.name, Operator.symbol, made]
  exact .ok (Node.comparison o p m)

/-- A property is tested for a range between two operands. -/
theorem follows_handleBetween :
    Follows id (handleBetween (Head.core (.advanced .between)).name as)
      (readForm functions (.core (.advanced .between)) [("args", .list ds)]) := by
  refine follows_three follow (.core (.advanced .between)) rfl (fun _ wrong => requireArity_bind_of_ne wrong _)
    fun a b c subject low high first second third => ?_
  rw [readForm.eq_def]
  dsimp only
  rw [if_pos rfl, handleBetween, requireArity_three, itemAt_zero, ok_bind, first.value]
  refine (follows_property _ subject _).bind fun p _ => ?_
  rw [itemAt_one, ok_bind]
  refine (second.operand _).bind fun l _ => ?_
  rw [itemAt_two, ok_bind]
  refine (third.operand _).bind fun u _ => ?_
  have made : Construct.between (.ofNode (.property p)) (.ofNode l) (.ofNode u) = .ok (.between p l u) :=
    Construct.between_eq_ok.2 ⟨p, l, u, rfl, rfl, rfl, rfl⟩
  dsimp only [id]
  rw [made]
  exact .ok (Node.between p l u)

/-- A property is matched with a text. -/
theorem follows_handleLike :
    Follows id (handleLike (Head.core (.advanced .like)).name as)
      (readForm functions (.core (.advanced .like)) [("args", .list ds)]) := by
  refine follows_two follow (.core (.advanced .like)) rfl (fun _ wrong => requireArity_bind_of_ne wrong _)
    fun a b subject pattern first second => ?_
  rw [readForm.eq_def]
  dsimp only
  rw [if_pos rfl, handleLike, requireArity_two, itemAt_zero, ok_bind, first.value]
  refine (follows_property _ subject _).bind fun p _ => ?_
  rw [itemAt_one, ok_bind, second.value]
  cases pattern with
  | str s =>
    have made : Construct.like (.ofNode (.property p)) (.str s) = .ok (.like p s) :=
      Construct.like_eq_ok.2 ⟨p, s, rfl, rfl, rfl⟩
    dsimp only
    rw [made]
    exact .ok (Node.like p s)
  | _ => exact .refuse trivial

/-- A property is looked for among operands. -/
theorem follows_handleIn :
    Follows id (handleIn (Head.core (.advanced .isIn)).name as)
      (readForm functions (.core (.advanced .isIn)) [("args", .list ds)]) := by
  refine follows_two follow (.core (.advanced .isIn)) rfl (fun _ wrong => requireArity_bind_of_ne wrong _)
    fun a b subject values first second => ?_
  rw [readForm.eq_def]
  dsimp only
  rw [if_pos rfl, handleIn, requireArity_two, itemAt_zero, ok_bind, first.value]
  refine (follows_property _ subject _).bind fun p _ => ?_
  rw [itemAt_one, ok_bind, second.value]
  cases values with
  | list items =>
    refine (second.operands _ items rfl).bind_map fun ns _ => ?_
    exact liftError_eq_ok.2 (Construct.isIn_eq_ok.2 ⟨p, ns, rfl, rfl, rfl⟩)
  | _ => exact .refuse trivial

/-- A property is tested for no value. -/
theorem follows_handleIsNull :
    Follows id (handleIsNull (Head.core (.advanced .isNull)).name as)
      (readForm functions (.core (.advanced .isNull)) [("args", .list ds)]) := by
  refine follows_one follow (.core (.advanced .isNull)) rfl (fun _ wrong => requireArity_bind_of_ne wrong _)
    fun a subject only => ?_
  rw [readForm.eq_def]
  dsimp only
  rw [if_pos rfl, handleIsNull, requireArity_one, itemAt_zero, ok_bind, only.value]
  refine (follows_property _ subject _).bind_map fun p _ => ?_
  exact liftError_eq_ok.2 (Construct.isNull_eq_ok.2 ⟨p, rfl, rfl⟩)

/-- A property is related to a shape. -/
theorem follows_handleSpatial (o : SpatialOp) :
    Follows id (handleSpatial (Head.core (.spatial o)).name as)
      (readForm functions (.core (.spatial o)) [("args", .list ds)]) := by
  refine follows_two follow (.core (.spatial o)) rfl (fun _ wrong => requireArity_bind_of_ne wrong _)
    fun a b left right first second => ?_
  rw [readForm.eq_def]
  dsimp only
  rw [if_pos rfl, handleSpatial, requireArity_two, itemAt_zero, ok_bind, first.value]
  refine (follows_property _ left _).bind fun p _ => ?_
  rw [itemAt_one, ok_bind, second.value]
  refine (follows_shape right).bind fun s _ => ?_
  have made : Construct.spatial (.str o.symbol) (.ofNode (.property p)) (.ofNode s.toNode) = .ok (.spatial o p s) :=
    Construct.spatial_eq_ok.2 ⟨_, o, p, _, s, rfl, SpatialOp.ofSymbol?_symbol o, rfl, rfl, Node.shape?_toNode s, rfl⟩
  rw [Head.name, Operator.symbol, made]
  exact .ok (Node.spatial o p s)

/-- A property is related to a time. -/
theorem follows_handleTemporal (o : TemporalOp) :
    Follows id (handleTemporal (Head.core (.temporal o)).name as)
      (readForm functions (.core (.temporal o)) [("args", .list ds)]) := by
  refine follows_two follow (.core (.temporal o)) rfl (fun _ wrong => requireArity_bind_of_ne wrong _)
    fun a b left right first second => ?_
  rw [readForm.eq_def]
  dsimp only
  rw [if_pos rfl, handleTemporal, requireArity_two, itemAt_zero, ok_bind, first.value]
  refine (follows_property _ left _).bind fun p _ => ?_
  rw [itemAt_one, ok_bind, second.value]
  refine (follows_instant right).bind fun t _ => ?_
  have made :
      Construct.temporal (.str o.symbol) (.ofNode (.property p)) (.ofNode t.toNode) = .ok (.temporal o p t) :=
    Construct.temporal_eq_ok.2
      ⟨_, o, p, _, t, rfl, TemporalOp.ofSymbol?_symbol o, rfl, rfl, Node.instant?_toNode t, rfl⟩
  rw [Head.name, Operator.symbol, made]
  exact .ok (Node.temporal o p t)

/-- Two operands that may be sides are related as arrays. -/
theorem follows_handleArray (o : ArrayOp) :
    Follows id (handleArray (Head.core (.array o)).name as)
      (readForm functions (.core (.array o)) [("args", .list ds)]) := by
  refine follows_two follow (.core (.array o)) rfl (fun _ wrong => requireArity_bind_of_ne wrong _)
    fun a b left right first second => ?_
  rw [readForm.eq_def]
  dsimp only
  rw [if_pos rfl, handleArray, requireArity_two, forEach_pair_bind]
  refine (first.operand _).bind fun l _ => ?_
  refine (second.operand _).bind fun r _ => ?_
  exact follows_arrayRelation o l r

/-- A function is called with operands. -/
theorem follows_handleFunction (name : String) :
    Follows id (handleFunction name as) (readForm functions (.function name) [("args", .list ds)]) := by
  rw [readForm.eq_def]
  dsimp only
  rw [if_pos rfl, handleFunction]
  exact (follows_forEach_operand follow name).bind fun ns _ => follows_makeFunction name ns

/-- The handler of an operator follows the reader below it. -/
theorem follows_handle (head : Head) :
    Follows id (handle head as) (readForm functions head [("args", .list ds)]) := by
  rcases head with (op | op | op | op | op | op) | name
  · cases op with
    | and =>
      rw [readForm.eq_def]
      refine follows_handleLogical follow fun ns expressions => ?_
      exact Construct.conjunction_eq_ok.2 ⟨ns, rfl, expressions, rfl⟩
    | or =>
      rw [readForm.eq_def]
      refine follows_handleLogical follow fun ns expressions => ?_
      exact Construct.disjunction_eq_ok.2 ⟨ns, rfl, expressions, rfl⟩
    | not => exact follows_handleNot follow
  · exact follows_handleComparison follow op
  · cases op with
    | like => exact follows_handleLike follow
    | between => exact follows_handleBetween follow
    | isIn => exact follows_handleIn follow
    | isNull => exact follows_handleIsNull follow
  · exact follows_handleSpatial follow op
  · exact follows_handleTemporal follow op
  · exact follows_handleArray follow op
  · exact follows_handleFunction follow name

end Handlers

/-! ## Documents -/

/-- An operator that is missing or unknown is an error of its own. -/
theorem apt_headOf {functions : List String} {members : Members} {e : ParseError}
    (h : headOf functions members = .error e) : e.Apt := by
  unfold headOf at h
  split at h
  · unfold Head.ofName at h
    split at h
    · cases h
    · split_ifs at h
      cases h
      trivial
  · cases h
    trivial

section Recursion

variable (functions : List String)

-- By recursion on the document, in step with its readers. Operators are settled by `follows_handle`, which asks only
-- that the arguments follow.
mutual

/-- Operands follow their reader. -/
theorem follows_operand (op : String) (d : Datum) :
    Follows id (assembleOperand functions op d) (readOperand functions op d) := by
  cases d with
  | bool b =>
    rw [assembleOperand, readOperand]
    exact .ok (Node.literal (.bool b))
  | num n =>
    rw [assembleOperand, readOperand]
    exact .ok (Node.literal (.num n))
  | str s =>
    rw [assembleOperand, readOperand]
    exact .ok (Node.literal (.str s))
  | list items =>
    rw [assembleOperand, readOperand]
    refine (follows_operands op items).bind_map fun ns _ => ?_
    have elements : Construct.each (Construct.node "array" "elements") (ns.map .ofNode) = .ok ns :=
      Construct.each_node_eq_ok.2 rfl
    have made : Construct.array (offerAll ns) =
        liftParse ((Construct.each (Construct.node "array" "elements") (ns.map .ofNode)).map .array) := rfl
    dsimp only [id]
    rw [made, elements]
    rfl
  | object members =>
    rw [assembleOperand, readOperand]
    by_cases property : has members "property" = true
    · rw [if_pos property, if_pos property]
      exact .mapped (follows_propertyName property _)
    rw [if_neg property, if_neg property]
    by_cases operator : has members "op" = true
    · rw [if_pos operator, if_pos operator]
      refine Follows.bind (.of_apt fun e => apt_headOf) fun head _ => ?_
      exact follows_args head members
    rw [if_neg operator, if_neg operator]
    by_cases timestamp : has members "timestamp" = true
    · rw [if_pos timestamp, if_pos timestamp]
      exact .mapped (follows_timestamp timestamp)
    rw [if_neg timestamp, if_neg timestamp]
    by_cases date : has members "date" = true
    · rw [if_pos date, if_pos date]
      exact .mapped (follows_date date)
    rw [if_neg date, if_neg date]
    by_cases interval : has members "interval" = true
    · rw [if_pos interval, if_pos interval]
      exact .mapped (follows_interval interval)
    rw [if_neg interval, if_neg interval]
    by_cases typed : has members "type" = true
    · rw [if_pos typed, if_pos typed]
      exact .mapped (follows_geometry _)
    rw [if_neg typed, if_neg typed]
    by_cases boxed : has members "bbox" = true
    · rw [if_pos boxed, if_pos boxed]
      exact .mapped (follows_box boxed)
    rw [if_neg boxed, if_neg boxed]
    exact .refuse trivial
  | _ =>
    rw [assembleOperand, readOperand]
    · exact .refuse trivial
    all_goals nofun

theorem follows_operands (op : String) (items : List Datum) :
    Follows id (assembleOperands functions op items) (readOperands functions op items) := by
  cases items with
  | nil =>
    rw [assembleOperands, readOperands]
    exact .ok []
  | cons d rest =>
    rw [assembleOperands, readOperands]
    refine (follows_operand op d).bind fun n _ => ?_
    exact (follows_operands op rest).bind fun ns _ => .ok (n :: ns)

/-- Expressions follow their reader. -/
theorem follows_expression (op what : String) (d : Datum) :
    Follows id (assembleExpression functions op what d) (readChild functions op what d) := by
  cases d with
  | object members =>
    rw [assembleExpression, readChild]
    refine Follows.bind (.of_apt fun e => apt_headOf) fun head _ => ?_
    exact follows_args head members
  | _ =>
    rw [assembleExpression, readChild]
    · exact .refuse trivial
    all_goals nofun

/-- What is below an operator follows its reader. -/
theorem follows_args (head : Head) (members : Members) :
    Follows id (assembleArgs functions head.name members >>= handle head) (readForm functions head members) := by
  cases members with
  | nil =>
    rw [assembleArgs, readForm]
    exact .refuse trivial
  | cons m rest =>
    obtain ⟨name, value⟩ := m
    -- Members in front of the arguments are passed over on both sides.
    by_cases same : name = "args"
    · subst same
      rw [readForm_cons_args]
      cases value with
      | list args =>
        have found : assembleArgs functions head.name (("args", .list args) :: rest) =
            .ok (assembleArguments functions args) := by
          rw [assembleArgs.eq_def]
          exact if_pos rfl
        rw [found, ok_bind]
        exact follows_handle (follows_arguments args) head
      | _ =>
        rw [assembleArgs.eq_def, readForm.eq_def]
        exact .refuse trivial
    · have others : assembleArgs functions head.name ((name, value) :: rest) =
          assembleArgs functions head.name rest := by
        rw [assembleArgs.eq_def]
        exact if_neg same
      rw [others, readForm_cons_ne same]
      exact follows_args head rest

/-- Arguments follow the readers of their values. -/
theorem follows_arguments (ds : List Datum) :
    List.Forall₂ (Argument.Follows functions) (assembleArguments functions ds) ds := by
  cases ds with
  | nil =>
    rw [assembleArguments]
    exact .nil
  | cons d rest =>
    rw [assembleArguments]
    refine .cons ?_ (follows_arguments rest)
    exact
      { value := rfl
        expression := fun op => follows_expression op "child expression" d
        operand := fun op => follows_operand op d
        -- Items are asked for only where the value is a list.
        operands := by
          rintro op items rfl
          show Follows id (assembleItems functions op (.list items)) (readOperands functions op items)
          rw [assembleItems]
          exact follows_operands op items }

end

end Recursion

/-! ## Sources -/

/-- Nothing but text and bytes fails to be decoded. -/
theorem Source.decode_eq_none_iff (source : Source) : source.decode = none ↔ source.IsNoJson := by
  cases source with
  | bytes content => exact Iff.rfl
  | value d =>
    cases d with
    | str text => exact Iff.rfl
    | _ => exact ⟨nofun, False.elim⟩

/-- A document is read once it is decoded. -/
theorem Source.read_eq (functions : List String) (source : Source) :
    source.read functions =
      match source.decode with
      | some d => Document.read functions d
      | none => .error .malformed := by
  cases source with
  | bytes content => rfl
  | value d => cases d <;> rfl

/-- The assembly of a document ends in the tree that is read from it, or by the same error. -/
theorem assemble_eq (functions : List String) (source : Source) :
    assemble functions source = liftStop (source.read functions) := by
  rw [assemble, source.read_eq]
  cases source.decode with
  | none => rfl
  | some d =>
    have followed := (follows_expression (functions.map Text.lower) "filter" "filter" d).same
    dsimp only
    rw [followed, Except.map_id]
    rfl

/-- An error about a document is apt unless there was no JSON. -/
theorem apt_read {functions : List String} {source : Source} {e : ParseError}
    (h : source.read functions = .error e) : source.IsNoJson ∧ e = .malformed ∨ ¬ source.IsNoJson ∧ e.Apt := by
  rw [source.read_eq] at h
  rw [← source.decode_eq_none_iff]
  cases decoded : source.decode with
  | none =>
    rw [decoded] at h
    cases h
    exact .inl ⟨rfl, rfl⟩
  | some d =>
    rw [decoded] at h
    exact .inr ⟨nofun, (follows_expression (functions.map Text.lower) "filter" "filter" d).apt e h⟩

theorem liftStop_error {α : Type} (e : ParseError) : liftStop (.error e : Except ParseError α) = .error (.error e.raised) :=
  rfl

/-- An assembly ends by an error of reading exactly if the document is refused for it and it can be put into words. -/
theorem assemble_eq_parse_iff {functions : List String} {source : Source} {e : ParseError} :
    assemble functions source = .error (.error (.parse e)) ↔
      source.read functions = .error e ∧ ¬ e.ShowsEndless := by
  rw [assemble_eq, ← ParseError.isWorded_eq_false_iff, Bool.not_eq_false]
  cases source.read functions with
  | ok n => exact ⟨nofun, fun h => nomatch h.1⟩
  | error cause =>
    rw [liftStop_error]
    cases words : cause.isWorded with
    | true =>
      rw [ParseError.raised_of_isWorded words]
      constructor
      · rintro ⟨⟩
        exact ⟨rfl, words⟩
      · rintro ⟨⟨⟩, -⟩
        rfl
    | false =>
      rw [ParseError.raised_of_not_isWorded words]
      constructor
      · rintro ⟨⟩
      · rintro ⟨⟨⟩, worded⟩
        cases words.symm.trans worded

/-- A document that is refused for an error without words ends the assembly by the error of its digits. -/
theorem assemble_of_showsEndless {functions : List String} {source : Source} {e : ParseError}
    (refused : source.read functions = .error e) (endless : e.ShowsEndless) :
    assemble functions source = .error (.error .tooManyDigits) := by
  rw [assemble_eq, refused, liftStop_error, ParseError.raised_of_not_isWorded (ParseError.isWorded_eq_false_iff.2 endless)]

/-- A document is refused for want of JSON exactly when it is text or bytes that are no JSON. -/
theorem Source.read_eq_malformed_iff {functions : List String} {source : Source} :
    source.read functions = .error .malformed ↔ source.IsNoJson := by
  constructor
  · intro h
    rcases apt_read h with ⟨noJson, -⟩ | ⟨-, apt⟩
    · exact noJson
    · exact apt.elim
  · intro noJson
    rw [source.read_eq, source.decode_eq_none_iff.2 noJson]

/-- Every assembly ends in a tree or by one error of reading, the same as the reader's, unless that error is about a
value in the place of a time that cannot be shown: then the error is that of its digits, which is none of reading. The
assembly ends for want of JSON exactly when the source is text or bytes that are no JSON; an error of reading names no
operator only if there was no JSON or no operator; and where the number of arguments is wrong, it is none of the expected
numbers. -/
theorem assemble_ends (functions : List String) (source : Source) :
    ((∃ n, source.read functions = .ok n ∧ assemble functions source = .ok n) ∨
        (∃ e, source.read functions = .error e ∧ ¬ e.ShowsEndless ∧
          assemble functions source = .error (.error (.parse e))) ∨
        ∃ e, source.read functions = .error e ∧ e.ShowsEndless ∧
          assemble functions source = .error (.error .tooManyDigits)) ∧
      (assemble functions source = .error (.error (.parse .malformed)) ↔ source.IsNoJson) ∧
      (∀ e, assemble functions source = .error (.error (.parse e)) → e.op? = none →
        e = .malformed ∨ e = .missingOperator) ∧
      ∀ op expected got, assemble functions source = .error (.error (.parse (.arity op expected got))) →
        (∃ k : Nat, expected = .num (.int k) ∧ got ≠ k) ∨ expected = .str "4 or 6" ∧ got ≠ 4 ∧ got ≠ 6 := by
  refine ⟨?_, ?_, fun e _ => e.op?_eq_none_iff.1, fun op expected got h => ?_⟩
  · cases ends : source.read functions with
    | ok n =>
      refine .inl ⟨n, rfl, ?_⟩
      rw [assemble_eq, ends]
      rfl
    | error e =>
      by_cases endless : e.ShowsEndless
      · exact .inr (.inr ⟨e, rfl, endless, assemble_of_showsEndless ends endless⟩)
      · exact .inr (.inl ⟨e, rfl, endless, assemble_eq_parse_iff.2 ⟨ends, endless⟩⟩)
  · have worded : ¬ ParseError.malformed.ShowsEndless := by
      rintro ⟨op, value, -, same | same⟩ <;> cases same
    rw [assemble_eq_parse_iff, and_iff_left worded, Source.read_eq_malformed_iff]
  · rcases apt_read (assemble_eq_parse_iff.1 h).1 with ⟨-, same⟩ | ⟨-, apt⟩
    · cases same
    · exact apt

/-- A filter for what is later than a number, which is no time. -/
def numberedDocument (n : Number) : Datum :=
  .object
    [("op", .str "t_after"), ("args", .list [.object [("property", .str "p")], .object [("timestamp", .num n)]])]

theorem read_numberedDocument (n : Number) :
    Source.read [] (.value (numberedDocument n)) = .error (.time "t_after" (.notTimestampText (.num n))) := rfl

/-- It is refused for the number, but by an error that is none of reading if the number has too many digits. -/
theorem assemble_ends_endlessDocument :
    Source.read [] (.value (numberedDocument .endless)) = .error (.time "t_after" (.notTimestampText (.num .endless))) ∧
      assemble [] (.value (numberedDocument .endless)) = .error (.error .tooManyDigits) ∧
      ∀ e, assemble [] (.value (numberedDocument .endless)) ≠ .error (.error (.parse e)) := by
  have refused := read_numberedDocument .endless
  have long : Datum.isPrintable (.num .endless) = false := by
    rw [Datum.isPrintable]
    exact Number.isPrintable_endless
  have ends := assemble_of_showsEndless refused ⟨"t_after", .num .endless, long, .inl rfl⟩
  exact ⟨refused, ends, fun e same => nomatch ends.symm.trans same⟩

end Document

end CatalogFilter
