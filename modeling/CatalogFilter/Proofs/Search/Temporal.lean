import CatalogFilter.Proofs.Node.Parts
import CatalogFilter.Proofs.Search.Meaning

/-!
# Temporal filters as queries

* `TemporalOp.Relates` — the relation of an instant to a time, or to an interval whose ends may be open.
* `TemporalOp.FacesOpenEnd` — relations to what comes after an end that never comes, or before a start that never was.
* `Query.matches_boundsClause` — the clause of bounds asks for a value within them, whether there are any or not.
* `Node.matches_temporal_iff` — the query of a temporal filter matches the instants in the relation; facing an open end it
  matches every instant.

An open end gives no bound. To lie within the interval that is as it should be. To lie beyond the end it is not: no instant
does, but a range without bounds holds every value.
-/

namespace CatalogFilter

/-! ## Temporal relations -/

namespace TemporalOp

/-- Whether an instant stands in a relation to a time or to an interval. Every instant is later than an open start and
earlier than an open end. -/
def Relates : TemporalOp → Instant → Int → Prop
  | .intersects, .interval start stop, x => (∀ t ∈ start, t.instant ≤ x) ∧ ∀ t ∈ stop, x ≤ t.instant
  | .during, .interval start stop, x => (∀ t ∈ start, t.instant < x) ∧ ∀ t ∈ stop, x < t.instant
  | .after, .interval _ stop, x => ∃ t ∈ stop, t.instant < x
  | .before, .interval start _, x => ∃ t ∈ start, x < t.instant
  | .equals, .timestamp t, x => x = t.instant
  | .intersects, .timestamp t, x => x = t.instant
  | .after, .timestamp t, x => t.instant < x
  | .before, .timestamp t, x => x < t.instant
  | _, _, _ => False

/-- Whether a relation asks for what is beyond an end of an interval, and that end is open. -/
def FacesOpenEnd : TemporalOp → Instant → Prop
  | .after, .interval _ none => True
  | .before, .interval none _ => True
  | _, _ => False

end TemporalOp

/-! ## Bounds -/

namespace Query

variable {V : Type} [PartialOrder V] {index : Index V} {entry : Entry V} {field : String}

/-- Without bounds every value is admitted. -/
theorem Bounds.admits_of_named_eq_nil {b : Bounds} (none : b.named = []) (x : V) : b.Admits index field x := by
  simp only [Bounds.named, List.append_eq_nil_iff, List.map_eq_nil_iff, Option.toList_eq_nil_iff] at none
  obtain ⟨⟨⟨gt, gte⟩, lte⟩, lt⟩ := none
  simp [Bounds.Admits, gt, gte, lte, lt]

/-- The clause of bounds asks for a value within them. Of a field without any it asks for a value. -/
theorem matches_boundsClause (b : Bounds) :
    (Node.boundsClause field b).Matches index entry ↔ ∃ x ∈ entry field, b.Admits index field x := by
  unfold Node.boundsClause
  split
  · rename_i empty
    have all (x : V) : b.Admits index field x := Bounds.admits_of_named_eq_nil (List.isEmpty_iff.1 empty) x
    simp only [Matches, all, and_true]
    rw [ne_eq, List.eq_nil_iff_forall_not_mem, not_forall_not]
  · rfl

section

variable {index : Index Int}

/-- A bound that may be missing asks for what the time asks for that it is. -/
theorem forall_timestamp_iff {bound : Option OffsetDateTime} {R : Int → Prop}
    (reads : ∀ t ∈ bound, index.value field (.str t.text) = t.instant) :
    (∀ v, bound.map .timestamp = some v → ∃ y, Operand.Denotes index field v y ∧ R y) ↔ ∀ t ∈ bound, R t.instant := by
  cases bound with
  | none => simp
  | some t => simp [Operand.Denotes, Operand.scalar?, reads t rfl]

/-- Bounds that are times admit the instants between them. -/
theorem admits_times_iff (gt gte lte lt : Option OffsetDateTime)
    (reads : ∀ t, t ∈ gt ∨ t ∈ gte ∨ t ∈ lte ∨ t ∈ lt → index.value field (.str t.text) = t.instant) (x : Int) :
    Bounds.Admits index field ⟨gt.map .timestamp, gte.map .timestamp, lte.map .timestamp, lt.map .timestamp⟩ x ↔
      (∀ t ∈ gt, t.instant < x) ∧ (∀ t ∈ gte, t.instant ≤ x) ∧ (∀ t ∈ lte, x ≤ t.instant) ∧ ∀ t ∈ lt, x < t.instant := by
  refine and_congr (forall_timestamp_iff fun t member => reads t (.inl member)) ?_
  refine and_congr (forall_timestamp_iff fun t member => reads t (.inr (.inl member))) ?_
  refine and_congr (forall_timestamp_iff fun t member => reads t (.inr (.inr (.inl member)))) ?_
  exact forall_timestamp_iff fun t member => reads t (.inr (.inr (.inr member)))

end

end Query

/-! ## Clauses of temporal filters -/

namespace Node

variable {index : Index Int} {field : String} {op : TemporalOp} {bounds : Query.Bounds}

/-- The bounds of a relation to an interval admit the instants in the relation, and facing an open end every instant. -/
theorem admits_intervalBounds_iff {start stop : Option OffsetDateTime}
    (found : intervalBounds? op (start.map .timestamp) (stop.map .timestamp) = some bounds)
    (reads : ∀ t, t ∈ start ∨ t ∈ stop → index.value field (.str t.text) = t.instant) (x : Int) :
    bounds.Admits index field x ↔ op.Relates (.interval start stop) x ∨ op.FacesOpenEnd (.interval start stop) := by
  cases op with
  | intersects =>
    cases found
    apply (Query.admits_times_iff none start stop none (fun t member => reads t (by simpa using member)) x).trans
    simp [TemporalOp.Relates, TemporalOp.FacesOpenEnd]
  | during =>
    cases found
    apply (Query.admits_times_iff start none none stop (fun t member => reads t (by simpa using member)) x).trans
    simp [TemporalOp.Relates, TemporalOp.FacesOpenEnd]
  | after =>
    cases found
    apply (Query.admits_times_iff stop none none none (fun t member => reads t (.inr (by simpa using member))) x).trans
    -- The two sides part here: a missing bound asks nothing, while no instant is in the relation.
    cases stop <;> simp [TemporalOp.Relates, TemporalOp.FacesOpenEnd]
  | before =>
    cases found
    apply (Query.admits_times_iff none none none start (fun t member => reads t (.inl (by simpa using member))) x).trans
    cases start <;> simp [TemporalOp.Relates, TemporalOp.FacesOpenEnd]
  | _ => cases found

/-- The bounds of a relation to a time admit the instants in the relation. -/
theorem admits_timeBounds_iff {t : OffsetDateTime} (found : timeBounds? op (.timestamp t) = some bounds)
    (reads : index.value field (.str t.text) = t.instant) (x : Int) :
    bounds.Admits index field x ↔ op.Relates (.timestamp t) x := by
  have known : ∀ u ∈ some t, index.value field (.str u.text) = u.instant := by
    rintro u ⟨⟩
    exact reads
  cases op with
  | equals | intersects =>
    cases found
    apply (Query.admits_times_iff none (some t) (some t) none (fun u member => known u (by simpa using member)) x).trans
    simp [TemporalOp.Relates, le_antisymm_iff, and_comm]
  | after =>
    cases found
    apply (Query.admits_times_iff (some t) none none none (fun u member => known u (by simpa using member)) x).trans
    simp [TemporalOp.Relates]
  | before =>
    cases found
    apply (Query.admits_times_iff none none none (some t) (fun u member => known u (by simpa using member)) x).trans
    simp [TemporalOp.Relates]
  | _ => cases found

/-- The query of a temporal filter on a time or an interval matches an entry with one instant exactly if the instant is in
the relation, or if the relation faces an open end, where it should match nothing. -/
theorem matches_temporal_iff {fields : FieldMap} {entry : Entry Int} {left : Property} {right : Instant} {q : Query}
    {x : Int} (translated : (Node.temporal op left right).toQuery fields = .ok q) (timed : ∀ d, right ≠ .date d)
    (reads : ∀ t ∈ right.times, index.value (fields.field left) (.str t.text) = t.instant)
    (single : entry (fields.field left) = [x]) :
    q.Matches index entry ↔ op.Relates right x ∨ op.FacesOpenEnd right := by
  rw [toQuery] at translated
  split at translated
  · rename_i bounds found
    cases translated
    rw [Query.matches_boundsClause, single]
    simp only [List.mem_singleton, exists_eq_left]
    cases right with
    | interval start stop =>
      apply admits_intervalBounds_iff found
      intro t member
      exact reads t (by simpa [Instant.times] using member)
    | timestamp t =>
      rw [admits_timeBounds_iff found (reads t List.mem_cons_self)]
      cases op <;> simp [TemporalOp.FacesOpenEnd]
    | date d => exact absurd rfl (timed d)
  · cases translated

/-- During what begins at the sample time and does not end is the second after it. -/
theorem matches_temporal_iff_during :
    ∃ q, (Node.temporal .during ⟨"datetime"⟩ (.interval (some (.leapNoon .utc (.fixed none))) none)).toQuery [] = .ok q ∧
      q.Matches timeIndex (fun _ => [(OffsetDateTime.leapNoon .utc (.fixed none)).instant + 1000000]) ∧
      TemporalOp.Relates .during (.interval (some (.leapNoon .utc (.fixed none))) none)
        ((OffsetDateTime.leapNoon .utc (.fixed none)).instant + 1000000) := by
  have within : TemporalOp.Relates .during (.interval (some (.leapNoon .utc (.fixed none))) none)
      ((OffsetDateTime.leapNoon .utc (.fixed none)).instant + 1000000) := by
    simp [TemporalOp.Relates]
  refine ⟨_, rfl, (matches_temporal_iff rfl (fun d isDate => ?_) (fun t member => ?_) rfl).2 (.inl within), within⟩
  · cases isDate
  · cases List.mem_singleton.1 member
    exact timeIndex_value_text (by decide)

/-- After what begins at the sample time and does not end is no instant, yet the query matches one. -/
theorem matches_after_open_end :
    ∃ q, (Node.temporal .after ⟨"datetime"⟩ (.interval (some (.leapNoon .utc (.fixed none))) none)).toQuery [] = .ok q ∧
      q.Matches timeIndex (fun _ => [0]) ∧
      ¬ TemporalOp.Relates .after (.interval (some (.leapNoon .utc (.fixed none))) none) 0 := by
  refine ⟨_, rfl, ?_, ?_⟩
  · exact List.cons_ne_nil _ _
  · simp [TemporalOp.Relates]

end Node

end CatalogFilter
