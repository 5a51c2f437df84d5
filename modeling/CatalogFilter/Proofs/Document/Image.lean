import CatalogFilter.Proofs.Calendar.Timestamp
import CatalogFilter.Proofs.Document.Reading
import CatalogFilter.Proofs.Node.Parts

/-!
# Trees that are read

* `Reads.isExpression`, `Reads.wellFormed` — a document's tree is an expression and keeps the rules of nodes.
* `Reads.meets` — the names of its functions are known and in lower case, its offsets are whole minutes, and none
  of its numbers is not a number unless the document has such a number.
* `Reads.isFixed` — its times have fixed offsets.

Together these are what a tree needs to be read back from its own document as an equal one.
-/

namespace CatalogFilter.Document

variable {functions : List String}

/-! ## The rules of nodes -/

/-- Freezing leaves no value null that was not. -/
theorem freeze_ne_null {d : Datum} (h : d ≠ .null) : d.freeze ≠ .null := by
  cases d with
  | null => exact absurd rfl h
  | _ => simp [Datum.freeze]

/-- A geometry's own box has an even number of numbers, at least four. -/
theorem ReadsOwnBox.count {d : Datum} {extent : List Number} (h : ReadsOwnBox d (some extent)) :
    4 ≤ extent.length ∧ extent.length % 2 = 0 := by
  cases h with
  | list _ count => exact count
  | tuple _ count => exact count

/-- Read geometries keep the rules of geometries. -/
theorem ReadsGeometry.valid {d : Datum} {g : Geometry} (h : ReadsGeometry d g) : g.Valid := by
  obtain ⟨-, notEmpty, located, frozen, boxed⟩ := h
  refine ⟨notEmpty, ?_, ?_, fun extent found => ?_⟩
  · rw [frozen]
    exact freeze_ne_null located
  · rw [frozen]
    exact Datum.isFrozen_freeze _
  · rw [found] at boxed
    exact boxed.count

/-- Read shapes keep the rules of shapes. -/
theorem ReadsShape.valid {d : Datum} {s : Shape} (h : ReadsShape d s) : s.Valid := by
  cases h with
  | bbox _ _ box =>
    obtain ⟨-, count⟩ := box
    exact count
  | geometry reads => exact reads.valid

/-- The tree of an expression is one. -/
theorem Reads.isExpression {d : Datum} {n : Node} (h : Reads functions .expression d n) : n.isExpression = true := by
  cases h <;> rfl

/-- Read trees keep the rules of nodes. -/
theorem Reads.wellFormed {position : Position} {d : Datum} {n : Node} (h : Reads functions position d n) :
    n.WellFormed := by
  induction h with
  | and _ count reads each =>
    refine ⟨(Node.allWellFormed_iff _).2 (forall_snd_of_zip count each), ?_⟩
    exact forall_snd_of_zip count fun pair h => (reads pair h).isExpression
  | or _ count reads each =>
    refine ⟨(Node.allWellFormed_iff _).2 (forall_snd_of_zip count each), ?_⟩
    exact forall_snd_of_zip count fun pair h => (reads pair h).isExpression
  | not _ reads child => exact ⟨child, reads.isExpression⟩
  | comparison _ tested _ operand => exact ⟨tested.name_ne_empty, operand⟩
  | between _ tested _ _ low high => exact ⟨tested.name_ne_empty, low, high⟩
  | like _ tested => exact tested.name_ne_empty
  | isIn _ tested count _ each =>
    exact ⟨tested.name_ne_empty, (Node.allWellFormed_iff _).2 (forall_snd_of_zip count each)⟩
  | isNull _ tested => exact tested.name_ne_empty
  | spatial _ tested shape => exact ⟨tested.name_ne_empty, shape.valid⟩
  | temporal _ tested _ => exact tested.name_ne_empty
  | array _ _ leftSide _ rightSide first second => exact ⟨first, leftSide, second, rightSide⟩
  | function frame notEmpty notCore _ count _ each =>
    refine ⟨notEmpty, ?_, (Node.allWellFormed_iff _).2 (forall_snd_of_zip count each)⟩
    rw [frame.lower_name]
    exact notCore
  | list count _ each => exact (Node.allWellFormed_iff _).2 (forall_snd_of_zip count each)
  | property _ notEmpty => exact notEmpty
  | expression _ _ nested => exact nested
  | geometry _ shape => exact shape.valid
  | bbox _ box =>
    obtain ⟨-, count⟩ := box
    exact count
  | _ => trivial

/-! ## Names, times and numbers -/

/-- Read times have offsets of whole minutes. -/
theorem ReadsTimestamp.isWholeMinutes {d : Datum} {t : OffsetDateTime} (h : ReadsTimestamp d t) :
    t.offset.IsWholeMinutes := by
  obtain ⟨read⟩ := h
  exact (Timestamp.isFixed_of_read read).2

/-- Read times have fixed offsets. -/
theorem ReadsTimestamp.isFixed {d : Datum} {t : OffsetDateTime} (h : ReadsTimestamp d t) : t.IsFixed := by
  obtain ⟨read⟩ := h
  exact (Timestamp.isFixed_of_read read).1

/-- Read ends of intervals have offsets of whole minutes. -/
theorem ReadsBound.isWholeMinutes {d : Datum} {bound : Option OffsetDateTime} (h : ReadsBound d bound)
    (t : OffsetDateTime) (closed : bound = some t) : t.offset.IsWholeMinutes := by
  subst closed
  cases h with
  | closed reads => exact reads.isWholeMinutes

/-- Both ends of a read interval have offsets of whole minutes. -/
theorem ReadsInterval.meets {d : Datum} {start stop : Option OffsetDateTime} (h : ReadsInterval d start stop) :
    (Instant.interval start stop).Meets (.readable functions) := by
  obtain ⟨lower, upper⟩ := h
  exact ⟨lower.isWholeMinutes, upper.isWholeMinutes⟩

/-- Read instants have offsets of whole minutes. -/
theorem ReadsInstant.meets {d : Datum} {t : Instant} (h : ReadsInstant d t) : t.Meets (.readable functions) := by
  cases h with
  | interval _ reads => exact reads.meets
  | timestamp _ reads => exact reads.isWholeMinutes
  | date _ _ => trivial

/-- The numbers of a list are numbers. -/
theorem not_isNan_of_map {extent : List Number} (plain : Datum.AllNumbers (fun n => ¬ n.IsNan) (extent.map .num))
    (n : Number) (h : n ∈ extent) : ¬ n.IsNan :=
  (Datum.allNumbers_iff _).1 plain (.num n) (List.mem_map_of_mem h)

/-- A read box has the numbers of its list. -/
theorem ReadsBox.meets {d : Datum} {extent : List Number} (h : ReadsBox d extent) (plain : d.NanFree) :
    (Shape.bbox extent).Meets (.readable functions) := by
  obtain ⟨rfl, -⟩ := h
  exact not_isNan_of_map plain

/-- A geometry's own box has the numbers of its list. -/
theorem ReadsOwnBox.not_isNan {d : Datum} {extent : List Number} (h : ReadsOwnBox d (some extent))
    (plain : d.NanFree) : ∀ n ∈ extent, ¬ n.IsNan := by
  cases h with
  | list numbers _ =>
    subst numbers
    exact not_isNan_of_map plain
  | tuple numbers _ =>
    subst numbers
    exact not_isNan_of_map plain

/-- The value of a member, or null, has only numbers of the object. -/
theorem nanFree_valueOf {members : Members} (plain : Datum.NanFree (.object members)) (name : String) :
    (valueOf members name).NanFree := by
  unfold valueOf
  cases found : members.lookup name with
  | none => trivial
  | some value => exact Datum.numbers_of_lookup plain found

/-- A read geometry has the numbers of its coordinates and of its own box. -/
theorem ReadsGeometry.meets {d : Datum} {g : Geometry} (h : ReadsGeometry d g) (plain : d.NanFree) :
    g.Meets (.readable functions) := by
  obtain ⟨-, -, -, frozen, boxed⟩ := h
  refine ⟨?_, fun extent found => ?_⟩
  · rw [frozen]
    exact Datum.numbers_freeze _ (nanFree_valueOf plain "coordinates")
  · rw [found] at boxed
    exact boxed.not_isNan (nanFree_valueOf plain "bbox")

/-- A read shape has the numbers of its value. -/
theorem ReadsShape.meets {d : Datum} {s : Shape} (h : ReadsShape d s) (plain : d.NanFree) :
    s.Meets (.readable functions) := by
  cases h with
  | bbox _ found box => exact box.meets (Datum.numbers_of_lookup plain found)
  | geometry reads => exact reads.meets plain

/-- The arguments of an expression have only numbers of the expression. -/
theorem HasFrame.nanFree {members : Members} {name : String} {args : List Datum} (h : HasFrame members name args)
    (plain : Datum.NanFree (.object members)) : ∀ d ∈ args, d.NanFree :=
  (Datum.allNumbers_iff args).1 (Datum.numbers_of_lookup plain h.arguments)

/-- Trees that are read together are as asked if each is. -/
theorem allMeet_of_zip {args : List Datum} {ns : List Node} (count : args.length = ns.length)
    (plain : ∀ d ∈ args, d.NanFree)
    (each : ∀ pair ∈ args.zip ns, pair.1.NanFree → pair.2.Meets (.readable functions)) :
    Node.AllMeet (.readable functions) ns :=
  (Node.allMeet_iff _ _).2
    (forall_snd_of_zip count fun pair h => each pair h (plain _ (List.of_mem_zip h).1))

/-- Read trees have only names of functions in lower case, offsets of whole minutes and numbers of the document. -/
theorem Reads.meets {position : Position} {d : Datum} {n : Node} (h : Reads functions position d n)
    (plain : d.NanFree) : n.Meets (.readable functions) := by
  induction h with
  | and frame count _ each => exact allMeet_of_zip count (frame.nanFree plain) each
  | or frame count _ each => exact allMeet_of_zip count (frame.nanFree plain) each
  | not frame _ child => exact child (frame.nanFree plain _ (by simp))
  | comparison frame _ _ operand => exact operand (frame.nanFree plain _ (by simp))
  | between frame _ _ _ low high =>
    exact ⟨low (frame.nanFree plain _ (by simp)), high (frame.nanFree plain _ (by simp))⟩
  | @isIn _ _ values _ _ frame _ count _ each =>
    have plainValues : Datum.NanFree (.list values) := frame.nanFree plain _ (by simp)
    exact allMeet_of_zip count ((Datum.allNumbers_iff values).1 plainValues) each
  | spatial frame _ shape => exact shape.meets (frame.nanFree plain _ (by simp))
  | temporal _ _ instant => exact instant.meets
  | array frame _ _ _ _ first second =>
    exact ⟨first (frame.nanFree plain _ (by simp)), second (frame.nanFree plain _ (by simp))⟩
  | function frame _ _ known count _ each =>
    exact ⟨⟨frame.lower_name, known⟩, allMeet_of_zip count (frame.nanFree plain) each⟩
  | num v => exact plain
  | list count _ each => exact allMeet_of_zip count ((Datum.allNumbers_iff _).1 plain) each
  | expression _ _ nested => exact nested plain
  | timestamp _ time => exact time.isWholeMinutes
  | interval _ bounds => exact bounds.meets
  | geometry _ shape => exact shape.meets plain
  | bbox leads box => exact box.meets (Datum.numbers_of_lookup plain (lookup_of_leading? leads))
  | _ => trivial

/-! ## Zones -/

/-- Read ends of intervals have fixed offsets. -/
theorem ReadsBound.isFixed {d : Datum} {bound : Option OffsetDateTime} (h : ReadsBound d bound) :
    ∀ t ∈ bound.toList, t.IsFixed := by
  cases h with
  | closed reads =>
    exact List.forall_mem_singleton.2 reads.isFixed
  | _ => exact fun t none => absurd none List.not_mem_nil

/-- Both ends of a read interval have fixed offsets. -/
theorem ReadsInterval.isFixed {d : Datum} {start stop : Option OffsetDateTime} (h : ReadsInterval d start stop) :
    ∀ t ∈ (Instant.interval start stop).times, t.IsFixed := by
  obtain ⟨lower, upper⟩ := h
  exact List.forall_mem_append.2 ⟨lower.isFixed, upper.isFixed⟩

/-- Read instants have fixed offsets. -/
theorem ReadsInstant.isFixed {d : Datum} {t : Instant} (h : ReadsInstant d t) : ∀ u ∈ t.times, u.IsFixed := by
  cases h with
  | interval _ reads => exact reads.isFixed
  | timestamp _ reads => exact List.forall_mem_singleton.2 reads.isFixed
  | date _ _ => exact fun t none => absurd none List.not_mem_nil

/-- Trees that are read together have fixed offsets if each has. -/
theorem isFixed_of_zip {args : List Datum} {ns : List Node} (count : args.length = ns.length)
    (each : ∀ pair ∈ args.zip ns, ∀ t ∈ pair.2.times, t.IsFixed) : ∀ t ∈ Node.allTimes ns, t.IsFixed := by
  intro t member
  obtain ⟨n, among, inside⟩ := Node.mem_allTimes.1 member
  exact forall_snd_of_zip (P := fun n => ∀ t ∈ n.times, t.IsFixed) count each n among t inside

/-- Read trees have fixed offsets. -/
theorem Reads.isFixed {position : Position} {d : Datum} {n : Node} (h : Reads functions position d n) :
    ∀ t ∈ n.times, t.IsFixed := by
  induction h with
  | and _ count _ each => exact isFixed_of_zip count each
  | or _ count _ each => exact isFixed_of_zip count each
  | not _ _ child => exact child
  | comparison _ _ _ operand => exact operand
  | between _ _ _ _ low high => exact List.forall_mem_append.2 ⟨low, high⟩
  | isIn _ _ count _ each => exact isFixed_of_zip count each
  | temporal _ _ instant => exact instant.isFixed
  | array _ _ _ _ _ first second => exact List.forall_mem_append.2 ⟨first, second⟩
  | function _ _ _ _ count _ each => exact isFixed_of_zip count each
  | list count _ each => exact isFixed_of_zip count each
  | expression _ _ nested => exact nested
  | timestamp _ time => exact List.forall_mem_singleton.2 time.isFixed
  | interval _ bounds => exact bounds.isFixed
  | _ => exact fun t none => absurd none List.not_mem_nil

end CatalogFilter.Document
