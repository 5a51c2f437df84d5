import CatalogFilter.Node.Check
import CatalogFilter.Node.Equality
import CatalogFilter.Proofs.Datum.Equality

/-!
# Function names, times and numbers of a tree

* `PartRules` — what is asked of the names of functions, of times and of numbers.
* `Node.Meets` — every part of a tree, at any depth, is as asked.
* `Node.mapTimes`, `Node.times` — a tree with each time exchanged, and the times of a tree.
* `Node.equal_eq_times` — trees that differ in the zones of their times alone are equal if their times are, one by one,
  as long as no number is not a number.
* `Node.equal_named_iff` — a tree whose times come back from their texts equals the tree exactly if none of them was
  ambiguous.
-/

namespace CatalogFilter

/-- What is asked of the parts of a tree. -/
structure PartRules where
  /-- Asked of the name of each function call. -/
  call : String → Prop
  /-- Asked of each time, the ends of intervals included. -/
  time : OffsetDateTime → Prop
  /-- Asked of each number: literals, boxes, and the numbers within coordinates. -/
  number : Number → Prop

/-- What a tree has to keep so that its document can be read back: every function is known under the lower-case
name that it has, every offset is a whole number of minutes, and no number is not a number. -/
def PartRules.readable (functions : List String) : PartRules where
  call name := Text.lower name = name ∧ name ∈ functions
  time t := t.offset.IsWholeMinutes
  number n := ¬ n.IsNan

/-- What is asked of the numbers of a tree alone. -/
def PartRules.numbers (p : Number → Prop) : PartRules where
  call _ := True
  time _ := True
  number := p

/-! ## Parts without nodes -/

section Leaves

variable (r : PartRules)

/-- Whether the number that a scalar may be is as asked. -/
def Scalar.Meets : Scalar → Prop
  | .num n => r.number n
  | _ => True

/-- Whether all numbers of a geometry are as asked. -/
def Geometry.Meets (g : Geometry) : Prop :=
  g.coordinates.Numbers r.number ∧ ∀ extent, g.bbox = some extent → ∀ n ∈ extent, r.number n

/-- Whether all numbers of a shape are as asked. -/
def Shape.Meets : Shape → Prop
  | .geometry g => g.Meets r
  | .bbox extent => ∀ n ∈ extent, r.number n

/-- Whether the time of an instant, or both ends of an interval, are as asked. -/
def Instant.Meets : Instant → Prop
  | .timestamp t => r.time t
  | .date _ => True
  | .interval start stop => (∀ t, start = some t → r.time t) ∧ ∀ t, stop = some t → r.time t

end Leaves

/-- The times that an instant names: its own, or the ends of an interval that are not open. -/
def Instant.times : Instant → List OffsetDateTime
  | .timestamp t => [t]
  | .date _ => []
  | .interval start stop => start.toList ++ stop.toList

/-- An instant with its times exchanged. -/
def Instant.mapTimes (f : OffsetDateTime → OffsetDateTime) : Instant → Instant
  | .timestamp t => .timestamp (f t)
  | .date d => .date d
  | .interval start stop => .interval (start.map f) (stop.map f)

namespace Node

/-! ## Trees -/

mutual

/-- Whether every part of a tree is as asked. -/
def Meets (r : PartRules) : Node → Prop
  | .property _ => True
  | .literal value => value.Meets r
  | .timestamp t => (Instant.timestamp t).Meets r
  | .date _ => True
  | .interval start stop => (Instant.interval start stop).Meets r
  | .geometry g => g.Meets r
  | .bbox extent => (Shape.bbox extent).Meets r
  | .array elements => AllMeet r elements
  | .and children => AllMeet r children
  | .or children => AllMeet r children
  | .not child => Meets r child
  | .comparison _ _ right => Meets r right
  | .between _ lower upper => Meets r lower ∧ Meets r upper
  | .like _ _ => True
  | .isIn _ values => AllMeet r values
  | .isNull _ => True
  | .spatial _ _ right => right.Meets r
  | .temporal _ _ right => right.Meets r
  | .arrayComparison _ left right => Meets r left ∧ Meets r right
  | .function name args => r.call name ∧ AllMeet r args

/-- `Meets` of each tree. -/
def AllMeet (r : PartRules) : List Node → Prop
  | [] => True
  | n :: rest => Meets r n ∧ AllMeet r rest

end

mutual

/-- A tree with each time exchanged. -/
def mapTimes (f : OffsetDateTime → OffsetDateTime) : Node → Node
  | .property p => .property p
  | .literal value => .literal value
  | .timestamp t => .timestamp (f t)
  | .date d => .date d
  | .interval start stop => .interval (start.map f) (stop.map f)
  | .geometry g => .geometry g
  | .bbox extent => .bbox extent
  | .array elements => .array (mapAllTimes f elements)
  | .and children => .and (mapAllTimes f children)
  | .or children => .or (mapAllTimes f children)
  | .not child => .not (mapTimes f child)
  | .comparison op left right => .comparison op left (mapTimes f right)
  | .between subject lower upper => .between subject (mapTimes f lower) (mapTimes f upper)
  | .like subject pattern => .like subject pattern
  | .isIn subject values => .isIn subject (mapAllTimes f values)
  | .isNull subject => .isNull subject
  | .spatial op left right => .spatial op left right
  | .temporal op left right => .temporal op left (right.mapTimes f)
  | .arrayComparison op left right => .arrayComparison op (mapTimes f left) (mapTimes f right)
  | .function name args => .function name (mapAllTimes f args)

/-- `mapTimes` of each tree. -/
def mapAllTimes (f : OffsetDateTime → OffsetDateTime) : List Node → List Node
  | [] => []
  | n :: rest => mapTimes f n :: mapAllTimes f rest

end

mutual

/-- The times of a tree from left to right. -/
def times : Node → List OffsetDateTime
  | .timestamp t => (Instant.timestamp t).times
  | .interval start stop => (Instant.interval start stop).times
  | .array elements => allTimes elements
  | .and children => allTimes children
  | .or children => allTimes children
  | .not child => times child
  | .comparison _ _ right => times right
  | .between _ lower upper => times lower ++ times upper
  | .isIn _ values => allTimes values
  | .temporal _ _ right => right.times
  | .arrayComparison _ left right => times left ++ times right
  | .function _ args => allTimes args
  | _ => []

/-- The times of some trees. -/
def allTimes : List Node → List OffsetDateTime
  | [] => []
  | n :: rest => times n ++ allTimes rest

end

/-- The trees of a list one by one. -/
theorem allMeet_iff (r : PartRules) (ns : List Node) : AllMeet r ns ↔ ∀ n ∈ ns, n.Meets r := by
  induction ns with
  | nil => simp [AllMeet]
  | cons n rest ih => simp [AllMeet, ih]

theorem mapAllTimes_eq_map (f : OffsetDateTime → OffsetDateTime) (ns : List Node) :
    mapAllTimes f ns = ns.map (mapTimes f) := by
  induction ns with
  | nil => rfl
  | cons n rest ih => rw [mapAllTimes, ih, List.map_cons]

/-- Other times make no other class of node. -/
@[simp] theorem isExpression_mapTimes (f : OffsetDateTime → OffsetDateTime) (n : Node) :
    (n.mapTimes f).isExpression = n.isExpression := by
  cases n <;> rfl

/-- Other times make no other side of an array relation. -/
@[simp] theorem isArraySide_mapTimes (f : OffsetDateTime → OffsetDateTime) (n : Node) :
    (n.mapTimes f).isArraySide = n.isArraySide := by
  cases n <;> rfl

/-! ## Exchanges -/

end Node

section Exchanges

variable (f g : OffsetDateTime → OffsetDateTime)

/-- The times of an exchanged instant are its times exchanged. -/
theorem Instant.times_mapTimes (t : Instant) : (t.mapTimes f).times = t.times.map f := by
  cases t with
  | timestamp t => rfl
  | date d => rfl
  | interval start stop => cases start <;> cases stop <;> rfl

/-- Two exchanges in a row are one. -/
theorem Instant.mapTimes_mapTimes (t : Instant) : (t.mapTimes f).mapTimes g = t.mapTimes (g ∘ f) := by
  cases t <;> simp [mapTimes]

namespace Node

mutual

/-- The times of an exchanged tree are its times exchanged. -/
theorem times_mapTimes (n : Node) : (n.mapTimes f).times = n.times.map f := by
  cases n with
  | timestamp t => rfl
  | interval start stop => exact Instant.times_mapTimes f (.interval start stop)
  | array elements => exact allTimes_mapAllTimes elements
  | and children => exact allTimes_mapAllTimes children
  | or children => exact allTimes_mapAllTimes children
  | not child => exact times_mapTimes child
  | comparison op left right => exact times_mapTimes right
  | between subject lower upper => simp [mapTimes, times, times_mapTimes lower, times_mapTimes upper]
  | isIn subject values => exact allTimes_mapAllTimes values
  | temporal op left right => exact right.times_mapTimes f
  | arrayComparison op left right => simp [mapTimes, times, times_mapTimes left, times_mapTimes right]
  | function name args => exact allTimes_mapAllTimes args
  | _ => rfl

theorem allTimes_mapAllTimes (ns : List Node) : allTimes (mapAllTimes f ns) = (allTimes ns).map f := by
  cases ns with
  | nil => rfl
  | cons n rest => simp [mapAllTimes, allTimes, times_mapTimes n, allTimes_mapAllTimes rest]

end

mutual

/-- Two exchanges in a row are one. -/
theorem mapTimes_mapTimes (n : Node) : (n.mapTimes f).mapTimes g = n.mapTimes (g ∘ f) := by
  cases n with
  | interval start stop => simp [mapTimes]
  | array elements => simp [mapTimes, mapAllTimes_mapAllTimes elements]
  | and children => simp [mapTimes, mapAllTimes_mapAllTimes children]
  | or children => simp [mapTimes, mapAllTimes_mapAllTimes children]
  | not child => simp [mapTimes, mapTimes_mapTimes child]
  | comparison op left right => simp [mapTimes, mapTimes_mapTimes right]
  | between subject lower upper => simp [mapTimes, mapTimes_mapTimes lower, mapTimes_mapTimes upper]
  | isIn subject values => simp [mapTimes, mapAllTimes_mapAllTimes values]
  | temporal op left right => simp [mapTimes, right.mapTimes_mapTimes f g]
  | arrayComparison op left right => simp [mapTimes, mapTimes_mapTimes left, mapTimes_mapTimes right]
  | function name args => simp [mapTimes, mapAllTimes_mapAllTimes args]
  | _ => rfl

theorem mapAllTimes_mapAllTimes (ns : List Node) : mapAllTimes g (mapAllTimes f ns) = mapAllTimes (g ∘ f) ns := by
  cases ns with
  | nil => rfl
  | cons n rest => simp [mapAllTimes, mapTimes_mapTimes n, mapAllTimes_mapAllTimes rest]

end

/-- Trees that become the same tree by an exchange have as many times. -/
theorem length_times_eq {n m : Node} (same : n.mapTimes f = m.mapTimes f) : n.times.length = m.times.length := by
  have times := congrArg (fun n => n.times.length) same
  simpa only [times_mapTimes, List.length_map] using times

theorem mem_allTimes {ns : List Node} {t : OffsetDateTime} : t ∈ allTimes ns ↔ ∃ n ∈ ns, t ∈ n.times := by
  induction ns with
  | nil => simp [allTimes]
  | cons n rest ih => simp [allTimes, ih]

end Node

end Exchanges

/-! ## Equality -/

section Equality

variable {call : String → Prop} {time : OffsetDateTime → Prop}

/-- Numbers equal themselves item by item. -/
theorem equalLists_self {extent : List Number} (h : ∀ n ∈ extent, ¬ n.IsNan) :
    equalLists Number.equal extent extent = true := by
  induction extent with
  | nil => rfl
  | cons n rest ih =>
    rw [equalLists, Number.equal_self (h n List.mem_cons_self), ih fun m hm => h m (List.mem_cons_of_mem n hm),
      Bool.and_self]

/-- Lists that fall into parts of the same length are equal if the parts are. -/
theorem equalLists_append {α : Type} (eq : α → α → Bool) {xs ys : List α} (count : xs.length = ys.length)
    (xs' ys' : List α) : equalLists eq (xs ++ xs') (ys ++ ys') = (equalLists eq xs ys && equalLists eq xs' ys') := by
  induction xs generalizing ys with
  | nil =>
    obtain rfl := List.length_eq_zero_iff.1 count.symm
    rfl
  | cons x rest ih =>
    cases ys with
    | nil => cases count
    | cons y others =>
      have later := ih (Nat.succ.inj count)
      rw [List.cons_append, List.cons_append, equalLists, equalLists, later, Bool.and_assoc]

/-- What may be missing is a list of at most one item. -/
theorem equalOptions_eq {α : Type} (eq : α → α → Bool) {a b : Option α} (both : a.isSome = b.isSome) :
    equalOptions eq a b = equalLists eq a.toList b.toList := by
  cases a <;> cases b <;> simp_all [equalOptions, equalLists]

/-- A scalar equals itself unless it is not a number. -/
theorem Scalar.equal_self {value : Scalar} (h : value.Meets ⟨call, time, fun n => ¬ n.IsNan⟩) :
    value.equal value = true := by
  cases value with
  | bool b => exact beq_self_eq_true b
  | num n => exact Number.equal_self h
  | str s => exact beq_self_eq_true s

/-- A geometry without numbers that are not numbers equals itself. -/
theorem Geometry.equal_self {s : Geometry} (h : s.Meets ⟨call, time, fun n => ¬ n.IsNan⟩) : s.equal s = true := by
  have box : equalOptions (equalLists Number.equal) s.bbox s.bbox = true := by
    cases hb : s.bbox with
    | none => rfl
    | some extent => exact equalLists_self (h.2 extent hb)
  rw [Geometry.equal, beq_self_eq_true, Datum.equal_self _ h.1, box, Bool.and_self, Bool.and_self]

/-- A shape without numbers that are not numbers equals itself. -/
theorem Shape.equal_self {s : Shape} (h : s.Meets ⟨call, time, fun n => ¬ n.IsNan⟩) : s.equal s = true := by
  cases s with
  | geometry g => exact g.equal_self h
  | bbox extent => exact equalLists_self h

/-- What may be missing is missing on both sides of the same exchange. -/
theorem isSome_of_map {α : Type} {f : α → α} {a b : Option α} (same : a.map f = b.map f) : a.isSome = b.isSome := by
  rw [← Option.isSome_map, same, Option.isSome_map]

/-- Instants that differ in their zones alone are equal if their times are. -/
theorem Instant.equal_eq_times {s t : Instant} (same : s.mapTimes .named = t.mapTimes .named) :
    s.equal t = equalLists OffsetDateTime.equal s.times t.times := by
  cases s with
  | timestamp a =>
    cases t with
    | timestamp b => exact (Bool.and_true _).symm
    | _ => cases same
  | date a =>
    cases t with
    | date b =>
      obtain rfl := Instant.date.inj same
      exact decide_eq_true rfl
    | _ => cases same
  | interval start stop =>
    cases t with
    | interval start' stop' =>
      obtain ⟨starts, stops⟩ := Instant.interval.inj same
      have first := isSome_of_map starts
      have last := isSome_of_map stops
      have count : start.toList.length = start'.toList.length := by
        rw [Option.length_toList, Option.length_toList, first]
      rw [Instant.equal, times, times, equalOptions_eq _ first, equalOptions_eq _ last, equalLists_append _ count]
    | _ => cases same

namespace Node

mutual

/-- Trees that differ in the zones of their times alone are equal if their times are, one by one. -/
theorem equal_eq_times (n m : Node) (same : n.mapTimes .named = m.mapTimes .named)
    (h : m.Meets ⟨call, time, fun n => ¬ n.IsNan⟩) :
    n.equal m = equalLists OffsetDateTime.equal n.times m.times := by
  cases n with
  | property p =>
    cases m with
    | property q =>
      obtain rfl := Node.property.inj same
      exact decide_eq_true rfl
    | _ => cases same
  | literal value =>
    cases m with
    | literal value' =>
      obtain rfl := Node.literal.inj same
      exact value.equal_self h
    | _ => cases same
  | timestamp t =>
    cases m with
    | timestamp u => exact (Bool.and_true _).symm
    | _ => cases same
  | date d =>
    cases m with
    | date e =>
      obtain rfl := Node.date.inj same
      exact decide_eq_true rfl
    | _ => cases same
  | interval start stop =>
    cases m with
    | interval start' stop' =>
      obtain ⟨starts, stops⟩ := Node.interval.inj same
      exact Instant.equal_eq_times (s := .interval start stop) (t := .interval start' stop')
        (congrArg₂ Instant.interval starts stops)
    | _ => cases same
  | geometry g =>
    cases m with
    | geometry g' =>
      obtain rfl := Node.geometry.inj same
      exact g.equal_self h
    | _ => cases same
  | bbox extent =>
    cases m with
    | bbox extent' =>
      obtain rfl := Node.bbox.inj same
      exact equalLists_self h
    | _ => cases same
  | array elements =>
    cases m with
    | array elements' => exact equalAll_eq_times elements elements' (Node.array.inj same) h
    | _ => cases same
  | and children =>
    cases m with
    | and children' => exact equalAll_eq_times children children' (Node.and.inj same) h
    | _ => cases same
  | or children =>
    cases m with
    | or children' => exact equalAll_eq_times children children' (Node.or.inj same) h
    | _ => cases same
  | not child =>
    cases m with
    | not child' => exact equal_eq_times child child' (Node.not.inj same) h
    | _ => cases same
  | comparison op left right =>
    cases m with
    | comparison op' left' right' =>
      obtain ⟨rfl, rfl, rights⟩ := Node.comparison.inj same
      simp [equal, times, equal_eq_times right right' rights h]
    | _ => cases same
  | between subject lower upper =>
    cases m with
    | between subject' lower' upper' =>
      obtain ⟨rfl, lowers, uppers⟩ := Node.between.inj same
      simp [equal, times, equal_eq_times lower lower' lowers h.1, equal_eq_times upper upper' uppers h.2,
        equalLists_append _ (length_times_eq _ lowers)]
    | _ => cases same
  | like subject pattern =>
    cases m with
    | like subject' pattern' =>
      obtain ⟨rfl, rfl⟩ := Node.like.inj same
      exact decide_eq_true ⟨rfl, rfl⟩
    | _ => cases same
  | isIn subject values =>
    cases m with
    | isIn subject' values' =>
      obtain ⟨rfl, items⟩ := Node.isIn.inj same
      simp [equal, times, equalAll_eq_times values values' items h]
    | _ => cases same
  | isNull subject =>
    cases m with
    | isNull subject' =>
      obtain rfl := Node.isNull.inj same
      exact decide_eq_true rfl
    | _ => cases same
  | spatial op left right =>
    cases m with
    | spatial op' left' right' =>
      obtain ⟨rfl, rfl, rfl⟩ := Node.spatial.inj same
      simp [equal, times, equalLists, right.equal_self h]
    | _ => cases same
  | temporal op left right =>
    cases m with
    | temporal op' left' right' =>
      obtain ⟨rfl, rfl, rights⟩ := Node.temporal.inj same
      simp [equal, times, Instant.equal_eq_times rights]
    | _ => cases same
  | arrayComparison op left right =>
    cases m with
    | arrayComparison op' left' right' =>
      obtain ⟨rfl, lefts, rights⟩ := Node.arrayComparison.inj same
      simp [equal, times, equal_eq_times left left' lefts h.1, equal_eq_times right right' rights h.2,
        equalLists_append _ (length_times_eq _ lefts)]
    | _ => cases same
  | function name args =>
    cases m with
    | function name' args' =>
      obtain ⟨rfl, operands⟩ := Node.function.inj same
      simp [equal, times, equalAll_eq_times args args' operands h.2]
    | _ => cases same

theorem equalAll_eq_times (ns ms : List Node) (same : mapAllTimes .named ns = mapAllTimes .named ms)
    (h : AllMeet ⟨call, time, fun n => ¬ n.IsNan⟩ ms) :
    equalAll ns ms = equalLists OffsetDateTime.equal (allTimes ns) (allTimes ms) := by
  cases ns with
  | nil =>
    cases ms with
    | nil => rfl
    | cons m others => cases same
  | cons n rest =>
    cases ms with
    | nil => cases same
    | cons m others =>
      obtain ⟨first, later⟩ := List.cons.inj same
      rw [equalAll, allTimes, allTimes, equal_eq_times n m first h.1, equalAll_eq_times rest others later h.2,
        equalLists_append _ (length_times_eq _ first)]

end

/-- Times with the same clocks and offsets are equal one by one exactly if their zones agree. -/
theorem equalLists_iff_of_named {ts us : List OffsetDateTime}
    (same : ts.map OffsetDateTime.named = us.map OffsetDateTime.named) :
    equalLists OffsetDateTime.equal ts us = true ↔ List.Forall₂ OffsetDateTime.ZonesAgree ts us := by
  induction ts generalizing us with
  | nil =>
    cases us with
    | nil => simp [equalLists]
    | cons u others => cases same
  | cons t rest ih =>
    cases us with
    | nil => cases same
    | cons u others =>
      obtain ⟨first, later⟩ := List.cons.inj same
      rw [equalLists, Bool.and_eq_true, OffsetDateTime.equal_iff_of_named first, ih later, List.forall₂_cons]

/-- Times that come back from their texts are equal to themselves exactly if none of them was ambiguous. -/
theorem equalLists_named_iff (ts : List OffsetDateTime) :
    equalLists OffsetDateTime.equal (ts.map .named) ts = true ↔ ∀ t ∈ ts, t.isAmbiguous = false := by
  induction ts with
  | nil => simp [equalLists]
  | cons t rest ih => rw [List.map_cons, equalLists, Bool.and_eq_true, t.equal_named, ih, List.forall_mem_cons]

/-- A tree whose times come back from their texts equals the tree exactly if none of them was ambiguous. -/
theorem equal_named_iff {n : Node} (h : n.Meets ⟨call, time, fun n => ¬ n.IsNan⟩) :
    (n.mapTimes .named).equal n = true ↔ ∀ t ∈ n.times, t.isAmbiguous = false := by
  have twice : (n.mapTimes .named).mapTimes .named = n.mapTimes .named := mapTimes_mapTimes _ _ n
  rw [equal_eq_times _ n twice h, times_mapTimes, equalLists_named_iff]

end Node

end Equality

end CatalogFilter
