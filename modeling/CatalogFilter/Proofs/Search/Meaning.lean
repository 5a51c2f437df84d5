import CatalogFilter.Proofs.Calendar.Timestamp
import CatalogFilter.Proofs.Search.Clauses

/-!
# Filters and their queries

* `Node.Holds` — the truth of a filter on an entry. A scalar predicate asks for the one value of its property; only
  `<>`, the denial of `=`, and the test for null hold where there is none.
* `Node.Built` — trees of given predicates, with no disjunction of nothing.
* `Node.IsScalarFilter` — the predicates on scalars and on lists of scalars.
* `exists_toQuery_matches_iff` — every tree of these has a query, and the query matches exactly the entries of
  which the tree is true.
-/

namespace CatalogFilter

/-! ## Truth of filters -/

/-- Whether two values stand in the relation of a comparison. -/
def ComparisonOp.Relates {V : Type} [PartialOrder V] : ComparisonOp → V → V → Prop
  | .eq, x, y => x = y
  | .neq, x, y => x ≠ y
  | .lt, x, y => x < y
  | .lte, x, y => x ≤ y
  | .gt, x, y => y < x
  | .gte, x, y => y ≤ x

namespace Node

section

variable {V : Type} (index : Index V) (moment : Int → V) (fields : FieldMap) (entry : Entry V)

/-- Whether a value is the one that a filter's operand stands for: times stand for moments, whatever their text,
and scalars and dates for what the index takes them as in the field. -/
def Denotes (field : String) : Node → V → Prop
  | .literal value, x => index.value field value = x
  | .timestamp t, x => moment t.instant = x
  | .date d, x => index.value field (.str d.text) = x
  | _, _ => False

/-- Whether the value of a field stands in a relation to an operand. Without a value it does not. -/
def Compares [PartialOrder V] (op : ComparisonOp) (field : String) (n : Node) : Prop :=
  ∃ x, (entry field).head? = some x ∧ ∃ y, n.Denotes index moment field y ∧ op.Relates x y

mutual

/-- The truth of a filter on an entry, for the connectives and the predicates on scalars and lists of scalars. -/
def Holds [PartialOrder V] : Node → Prop
  | .and children => AllHold children
  | .or children => AnyHolds children
  | .not child => ¬ Holds child
  | .comparison .neq left right => ¬ Compares index moment entry .eq (fields.field left) right
  | .comparison op left right => Compares index moment entry op (fields.field left) right
  | .between subject lower upper =>
    Compares index moment entry .gte (fields.field subject) lower ∧
      Compares index moment entry .lte (fields.field subject) upper
  | .isIn subject values => ∃ n ∈ values, Compares index moment entry .eq (fields.field subject) n
  | .isNull subject => entry (fields.field subject) = []
  | .arrayComparison .contains (.property p) (.array elements) =>
    ∀ n ∈ elements, ∃ x ∈ entry (fields.field p), n.Denotes index moment (fields.field p) x
  | .arrayComparison .overlaps (.property p) (.array elements) =>
    ∃ n ∈ elements, ∃ x ∈ entry (fields.field p), n.Denotes index moment (fields.field p) x
  | _ => False

/-- Whether every filter of a list is true. -/
def AllHold [PartialOrder V] : List Node → Prop
  | [] => True
  | n :: rest => Holds n ∧ AllHold rest

/-- Whether some filter of a list is true. -/
def AnyHolds [PartialOrder V] : List Node → Prop
  | [] => False
  | n :: rest => Holds n ∨ AnyHolds rest

end

end

/-! ## Trees of predicates -/

mutual

/-- Whether a tree consists of some predicates under connectives, with at least one below every disjunction. -/
def Built (P : Node → Prop) : Node → Prop
  | .and children => AllBuilt P children
  | .or children => children ≠ [] ∧ AllBuilt P children
  | .not child => Built P child
  | n => P n

/-- `Built` of each tree. -/
def AllBuilt (P : Node → Prop) : List Node → Prop
  | [] => True
  | n :: rest => Built P n ∧ AllBuilt P rest

end

mutual

/-- Predicates that are all of another kind too make trees of the other kind. -/
theorem Built.imp {P Q : Node → Prop} (weaker : ∀ n, P n → Q n) (n : Node) (h : n.Built P) : n.Built Q := by
  cases n with
  | and children => exact AllBuilt.imp weaker children h
  | or children => exact ⟨h.1, AllBuilt.imp weaker children h.2⟩
  | not child => exact Built.imp weaker child h
  | _ => exact weaker _ h

theorem AllBuilt.imp {P Q : Node → Prop} (weaker : ∀ n, P n → Q n) (ns : List Node) (h : AllBuilt P ns) :
    AllBuilt Q ns := by
  cases ns with
  | nil => trivial
  | cons n rest => exact ⟨Built.imp weaker n h.1, AllBuilt.imp weaker rest h.2⟩

end

/-- Whether an operand is a scalar or a time. -/
inductive IsScalarOperand : Node → Prop where
  | literal (value : Scalar) : IsScalarOperand (.literal value)
  | timestamp (t : OffsetDateTime) : IsScalarOperand (.timestamp t)
  | date (d : Date) : IsScalarOperand (.date d)

/-- The predicates on scalars, and on lists of scalars those that ask whether a property has all or some of them. -/
inductive IsScalarFilter : Node → Prop where
  | comparison (op : ComparisonOp) (left : Property) {right : Node} (operand : IsScalarOperand right) :
      IsScalarFilter (.comparison op left right)
  | between (subject : Property) {lower upper : Node} (low : IsScalarOperand lower) (high : IsScalarOperand upper) :
      IsScalarFilter (.between subject lower upper)
  | isIn (subject : Property) {values : List Node} (operands : ∀ n ∈ values, IsScalarOperand n) :
      IsScalarFilter (.isIn subject values)
  | isNull (subject : Property) : IsScalarFilter (.isNull subject)
  | contains (p : Property) {elements : List Node} (operands : ∀ n ∈ elements, IsScalarOperand n) :
      IsScalarFilter (.arrayComparison .contains (.property p) (.array elements))
  | overlaps (p : Property) {elements : List Node} (operands : ∀ n ∈ elements, IsScalarOperand n) :
      IsScalarFilter (.arrayComparison .overlaps (.property p) (.array elements))

/-- The property whose value a scalar predicate tests. -/
def tested? : Node → Option Property
  | .comparison _ left _ => some left
  | .between subject _ _ => some subject
  | .isIn subject _ => some subject
  | _ => none

/-- The operands that a predicate compares a property with, with the property. -/
def compared : Node → List (Property × Node)
  | .comparison _ left right => [(left, right)]
  | .between subject lower upper => [(subject, lower), (subject, upper)]
  | .isIn subject values => values.map (subject, ·)
  | .arrayComparison _ (.property p) (.array elements) => elements.map (p, ·)
  | _ => []

section

variable {V : Type} (index : Index V) (moment : Int → V) (fields : FieldMap) (entry : Entry V)

/-- The field that a scalar predicate tests has one value at most. -/
def TestsSingle (n : Node) : Prop :=
  ∀ p, n.tested? = some p → (entry (fields.field p)).length ≤ 1

/-- The text of each time that a predicate compares with is the time's moment to the index. -/
def TimesRead (n : Node) : Prop :=
  ∀ p t, (p, .timestamp t) ∈ n.compared → index.value (fields.field p) (.str t.text) = moment t.instant

end

/-! ## Operands -/

section

variable {V : Type} {index : Index V} {moment : Int → V} {fields : FieldMap} {entry : Entry V}

/-- What a filter's operand becomes in a query stands for the same value, if the index takes the text of a time as
its moment. -/
theorem exists_toOperand {n : Node} {field : String} (h : IsScalarOperand n)
    (times : ∀ t, n = .timestamp t → index.value field (.str t.text) = moment t.instant) :
    ∃ v, n.toOperand = .ok v ∧ ∀ x, v.Denotes index field x ↔ n.Denotes index moment field x := by
  cases h with
  | literal value =>
    refine ⟨.scalar value, rfl, fun x => ?_⟩
    simp [Query.Operand.Denotes, Query.Operand.scalar?, Denotes]
  | timestamp t =>
    refine ⟨.timestamp t, rfl, fun x => ?_⟩
    simp [Query.Operand.Denotes, Query.Operand.scalar?, Denotes, times t rfl]
  | date d =>
    refine ⟨.date d, rfl, fun x => ?_⟩
    simp [Query.Operand.Denotes, Query.Operand.scalar?, Denotes]

/-- The operands of a list become operands that stand for the same values one by one. -/
theorem exists_toOperands {ns : List Node} {field : String} (h : ∀ n ∈ ns, IsScalarOperand n)
    (times : ∀ n ∈ ns, ∀ t, n = .timestamp t → index.value field (.str t.text) = moment t.instant) :
    ∃ vs, Node.toOperands ns = .ok vs ∧
      List.Forall₂ (fun v n => ∀ x, v.Denotes index field x ↔ n.Denotes index moment field x) vs ns := by
  induction ns with
  | nil => exact ⟨[], rfl, .nil⟩
  | cons n rest ih =>
    obtain ⟨v, first, same⟩ := exists_toOperand (h n List.mem_cons_self) (times n List.mem_cons_self)
    obtain ⟨vs, others, all⟩ :=
      ih (fun m hm => h m (List.mem_cons_of_mem n hm)) fun m hm => times m (List.mem_cons_of_mem n hm)
    refine ⟨v :: vs, ?_, .cons same all⟩
    rw [toOperands, first, others]
    rfl

end

end Node

namespace Query

section

variable {V : Type} {index : Index V} {entry : Entry V} {field : String}

/-- An operand stands for one value at most. -/
theorem Operand.Denotes.unique {v : Operand} {x y : V} (first : v.Denotes index field x)
    (second : v.Denotes index field y) : x = y := by
  obtain ⟨s, found, rfl⟩ := first
  obtain ⟨s', found', rfl⟩ := second
  rw [found] at found'
  cases found'
  rfl

variable [PartialOrder V]

/-- The clause of equality asks for the value, for times no less than for other operands: a value between the ends
of a range that begins and ends with a time is that time. -/
theorem matches_equalClause (v : Operand) :
    (Node.equalClause field v).Matches index entry ↔ ∃ x ∈ entry field, v.Denotes index field x := by
  cases v with
  | timestamp t =>
    rw [Node.equalClause, Matches]
    refine exists_congr fun x => and_congr_right fun _ => ?_
    constructor
    · rintro ⟨-, above, below, -⟩
      obtain ⟨y, denotes, least⟩ := above _ rfl
      obtain ⟨z, denotes', greatest⟩ := below _ rfl
      rw [← denotes.unique denotes'] at greatest
      rw [le_antisymm greatest least]
      exact denotes
    · intro denotes
      refine ⟨fun v missing => ?_, fun v same => ?_, fun v same => ?_, fun v missing => ?_⟩
      · cases missing
      · cases same
        exact ⟨x, denotes, le_refl x⟩
      · cases same
        exact ⟨x, denotes, le_refl x⟩
      · cases missing
  | _ => rfl

/-- A range with one bound asks for a value on the right side of it. -/
theorem matches_range_one (v : Operand) :
    ((Query.range field ⟨some v, none, none, none⟩).Matches index entry ↔
        ∃ x ∈ entry field, ∃ y, v.Denotes index field y ∧ y < x) ∧
      ((Query.range field ⟨none, some v, none, none⟩).Matches index entry ↔
        ∃ x ∈ entry field, ∃ y, v.Denotes index field y ∧ y ≤ x) ∧
      ((Query.range field ⟨none, none, some v, none⟩).Matches index entry ↔
        ∃ x ∈ entry field, ∃ y, v.Denotes index field y ∧ x ≤ y) ∧
      ((Query.range field ⟨none, none, none, some v⟩).Matches index entry ↔
        ∃ x ∈ entry field, ∃ y, v.Denotes index field y ∧ x < y) := by
  simp [Matches, Bounds.Admits]

/-- A range between two values asks for one value that is neither below the first nor above the second. -/
theorem matches_range_between (lower upper : Operand) :
    (Query.range field (.between lower upper)).Matches index entry ↔
      ∃ x ∈ entry field, (∃ y, lower.Denotes index field y ∧ y ≤ x) ∧ ∃ y, upper.Denotes index field y ∧ x ≤ y := by
  simp [Matches, Bounds.Admits, Bounds.between]

end

end Query

namespace Node

/-- In a list of one value at most, some value is as asked exactly when the first is. -/
theorem exists_mem_iff_head {α : Type} {xs : List α} (single : xs.length ≤ 1) {P : α → Prop} :
    (∃ x ∈ xs, P x) ↔ ∃ x, xs.head? = some x ∧ P x := by
  match xs, single with
  | [], _ => simp
  | [x], _ => simp

/-- In a list of one value at most, values for two conditions are one value for both. -/
theorem exists_mem_and_iff {α : Type} {xs : List α} (single : xs.length ≤ 1) {P Q : α → Prop} :
    (∃ x ∈ xs, P x ∧ Q x) ↔ (∃ x ∈ xs, P x) ∧ ∃ x ∈ xs, Q x := by
  match xs, single with
  | [], _ => simp
  | [x], _ => simp

section

variable {V : Type} [PartialOrder V] {index : Index V} {moment : Int → V} {fields : FieldMap} {entry : Entry V}

/-- A field with one value at most compares with an operand exactly when it has a value in the relation. -/
theorem compares_iff {field : String} {n : Node} {v : Query.Operand} (op : ComparisonOp)
    (single : (entry field).length ≤ 1) (same : ∀ x, v.Denotes index field x ↔ n.Denotes index moment field x) :
    Compares index moment entry op field n ↔
      ∃ x ∈ entry field, ∃ y, v.Denotes index field y ∧ op.Relates x y := by
  rw [exists_mem_iff_head single]
  exact exists_congr fun x => and_congr_right fun _ => exists_congr fun y => and_congr_left' (same y).symm

/-- The clause of a comparison matches where the comparison holds. -/
theorem matches_comparisonClause {op : ComparisonOp} {left : Property} {right : Node} {v : Query.Operand}
    (single : (entry (fields.field left)).length ≤ 1)
    (same : ∀ x, v.Denotes index (fields.field left) x ↔ right.Denotes index moment (fields.field left) x) :
    (comparisonClause op (fields.field left) v).Matches index entry ↔
      Holds index moment fields entry (.comparison op left right) := by
  have equal : (equalClause (fields.field left) v).Matches index entry ↔
      Compares index moment entry .eq (fields.field left) right := by
    rw [Query.matches_equalClause, compares_iff .eq single same]
    simp [ComparisonOp.Relates]
  cases op with
  | eq => exact equal
  | neq =>
    rw [Holds, ← equal]
    simp [comparisonClause, Query.Matches, Query.MatchesAny]
  | lt =>
    rw [Holds, compares_iff .lt single same]
    · exact (Query.matches_range_one v).2.2.2
    · intro isNeq
      cases isNeq
  | lte =>
    rw [Holds, compares_iff .lte single same]
    · exact (Query.matches_range_one v).2.2.1
    · intro isNeq
      cases isNeq
  | gt =>
    rw [Holds, compares_iff .gt single same]
    · exact (Query.matches_range_one v).1
    · intro isNeq
      cases isNeq
  | gte =>
    rw [Holds, compares_iff .gte single same]
    · exact (Query.matches_range_one v).2.1
    · intro isNeq
      cases isNeq

/-- The clause of a test for a span matches where the value is in it. -/
theorem matches_between {subject : Property} {lower upper : Node} {low high : Query.Operand}
    (single : (entry (fields.field subject)).length ≤ 1)
    (sameLow : ∀ x, low.Denotes index (fields.field subject) x ↔
      lower.Denotes index moment (fields.field subject) x)
    (sameHigh : ∀ x, high.Denotes index (fields.field subject) x ↔
      upper.Denotes index moment (fields.field subject) x) :
    (Query.range (fields.field subject) (.between low high)).Matches index entry ↔
      Holds index moment fields entry (.between subject lower upper) := by
  rw [Query.matches_range_between, exists_mem_and_iff single, Holds, compares_iff .gte single sameLow,
    compares_iff .lte single sameHigh]
  rfl

/-- The clause of a list of values matches where one of them is a value of the field. -/
theorem matches_terms {field : String} {values : List Node} {vs : List Query.Operand}
    (same : List.Forall₂ (fun v n => ∀ x, v.Denotes index field x ↔ n.Denotes index moment field x) vs values) :
    (Query.terms field vs).Matches index entry ↔
      ∃ n ∈ values, ∃ x ∈ entry field, n.Denotes index moment field x := by
  have each : List.Forall₂ (fun v n => (∃ x ∈ entry field, v.Denotes index field x) ↔
      ∃ x ∈ entry field, n.Denotes index moment field x) vs values :=
    same.imp fun v n same => exists_congr fun x => and_congr_right fun _ => same x
  rw [← exists_mem_iff_of_forall₂ each, Query.Matches]
  constructor
  · rintro ⟨x, member, v, among, denotes⟩
    exact ⟨v, among, x, member, denotes⟩
  · rintro ⟨v, among, x, member, denotes⟩
    exact ⟨x, member, v, among, denotes⟩

/-- The clauses of the values of a list match where all of them are values of the field. -/
theorem matches_must_term {field : String} {values : List Node} {vs : List Query.Operand}
    (same : List.Forall₂ (fun v n => ∀ x, v.Denotes index field x ↔ n.Denotes index moment field x) vs values) :
    (Query.must (vs.map (.term field))).Matches index entry ↔
      ∀ n ∈ values, ∃ x ∈ entry field, n.Denotes index moment field x := by
  have each : List.Forall₂ (fun v n => (∃ x ∈ entry field, v.Denotes index field x) ↔
      ∃ x ∈ entry field, n.Denotes index moment field x) vs values :=
    same.imp fun v n same => exists_congr fun x => and_congr_right fun _ => same x
  rw [← forall_mem_iff_of_forall₂ each, Query.Matches, Query.matchesAll_iff]
  simp [Query.Matches]

/-- The clause of a test for membership matches where the value is a member. -/
theorem matches_isIn {subject : Property} {values : List Node} {vs : List Query.Operand}
    (single : (entry (fields.field subject)).length ≤ 1)
    (same : List.Forall₂ (fun v n => ∀ x, v.Denotes index (fields.field subject) x ↔
      n.Denotes index moment (fields.field subject) x) vs values) :
    (Query.terms (fields.field subject) vs).Matches index entry ↔
      Holds index moment fields entry (.isIn subject values) := by
  rw [matches_terms same, Holds]
  refine exists_congr fun n => and_congr_right fun _ => ?_
  rw [exists_mem_iff_head single]
  simp [Compares, ComparisonOp.Relates]

/-! ## Queries of filters -/

/-- Every predicate on scalars and lists of scalars has a query that matches where it holds. -/
theorem exists_toQuery_of_isScalarFilter {n : Node} (h : IsScalarFilter n) (single : TestsSingle fields entry n)
    (times : TimesRead index moment fields n) :
    ∃ q, n.toQuery fields = .ok q ∧ (q.Matches index entry ↔ n.Holds index moment fields entry) := by
  cases h with
  | comparison op left operand =>
    obtain ⟨v, read, same⟩ := exists_toOperand operand fun t e => times left t (by simp [compared, e])
    refine ⟨comparisonClause op (fields.field left) v, ?_, matches_comparisonClause (single left rfl) same⟩
    rw [toQuery, read]
    rfl
  | between subject low high =>
    obtain ⟨lower, readLower, sameLower⟩ := exists_toOperand low fun t e => times subject t (by simp [compared, e])
    obtain ⟨upper, readUpper, sameUpper⟩ := exists_toOperand high fun t e => times subject t (by simp [compared, e])
    refine ⟨_, ?_, matches_between (single subject rfl) sameLower sameUpper⟩
    rw [toQuery, readLower, readUpper]
    rfl
  | isIn subject operands =>
    obtain ⟨vs, read, same⟩ := exists_toOperands operands fun n member t e =>
      times subject t (by simp [compared, ← e, member])
    refine ⟨_, ?_, matches_isIn (single subject rfl) same⟩
    rw [toQuery, read]
    rfl
  | isNull subject =>
    refine ⟨_, rfl, ?_⟩
    rw [Query.Matches, Query.Matches, Holds]
    exact not_not
  | contains p operands =>
    obtain ⟨vs, read, same⟩ := exists_toOperands operands fun n member t e =>
      times p t (by simp [compared, ← e, member])
    refine ⟨.must (vs.map (.term (fields.field p))), ?_, matches_must_term same⟩
    rw [toQuery, toOperand, read]
    rfl
  | overlaps p operands =>
    obtain ⟨vs, read, same⟩ := exists_toOperands operands fun n member t e =>
      times p t (by simp [compared, ← e, member])
    refine ⟨.terms (fields.field p) vs, ?_, matches_terms same⟩
    rw [toQuery, toOperand, read]
    rfl

/-- The filters of a list one by one. -/
theorem allHold_iff (ns : List Node) :
    AllHold index moment fields entry ns ↔ ∀ n ∈ ns, n.Holds index moment fields entry := by
  induction ns with
  | nil => simp [AllHold]
  | cons n rest ih => simp [AllHold, ih]

/-- Of the filters of a list one. -/
theorem anyHolds_iff (ns : List Node) :
    AnyHolds index moment fields entry ns ↔ ∃ n ∈ ns, n.Holds index moment fields entry := by
  induction ns with
  | nil => simp [AnyHolds]
  | cons n rest ih => simp [AnyHolds, ih]

mutual

/-- Trees of predicates that have queries have queries: a conjunction of queries for a conjunction, and so on. -/
theorem exists_toQuery (n : Node) (built : n.Built IsScalarFilter) (single : n.Built (TestsSingle fields entry))
    (times : n.Built (TimesRead index moment fields)) :
    ∃ q, n.toQuery fields = .ok q ∧ (q.Matches index entry ↔ n.Holds index moment fields entry) := by
  have reads := Query.readsClauses_matches index entry
  cases n with
  | and children =>
    apply renders_and reads (allRender children built single times)
    rw [Holds, allHold_iff]
  | or children =>
    apply renders_or reads (allRender children built.2 single.2 times.2)
    rw [Holds, anyHolds_iff, or_iff_right built.1]
  | not child =>
    apply renders_not reads (exists_toQuery child built single times)
    rw [Holds]
  | _ => exact exists_toQuery_of_isScalarFilter built single times

/-- So does every tree of a list. -/
theorem allRender (ns : List Node) (built : AllBuilt IsScalarFilter ns) (single : AllBuilt (TestsSingle fields entry) ns)
    (times : AllBuilt (TimesRead index moment fields) ns) :
    ∀ n ∈ ns, Renders fields (Query.Matches index entry) (Holds index moment fields entry) n := by
  cases ns with
  | nil => exact nofun
  | cons n rest =>
    have first := exists_toQuery n built.1 single.1 times.1
    have others := allRender rest built.2 single.2 times.2
    exact List.forall_mem_cons.2 ⟨first, others⟩

end

end

/-- Filters on scalars keep their meaning as queries. Every tree of predicates on scalars and lists of scalars, with
no disjunction of nothing, has a query; on every entry with one value at most in the fields that scalar predicates
test, it matches exactly if the tree is true of the entry, as long as the index takes the texts of the times
compared with for the moments that they are. -/
theorem exists_toQuery_matches_iff (fields : FieldMap) (n : Node) (built : n.Built IsScalarFilter) :
    ∃ q, n.toQuery fields = .ok q ∧
      ∀ {V : Type} [PartialOrder V] (index : Index V) (moment : Int → V) (entry : Entry V),
        n.Built (TestsSingle fields entry) → n.Built (TimesRead index moment fields) →
          (q.Matches index entry ↔ n.Holds index moment fields entry) := by
  -- any entry shows that there is a query, so an empty one of an index that tells no values apart
  let blind : Index Int := ⟨fun _ _ => 0, fun _ _ => True, fun _ _ _ => True⟩
  have single : n.Built (TestsSingle fields fun _ => ([] : List Int)) :=
    Built.imp (fun _ _ _ _ => Nat.zero_le 1) n built
  have times : n.Built (TimesRead blind (fun _ => 0) fields) := Built.imp (fun _ _ _ _ _ => rfl) n built
  obtain ⟨q, translated, -⟩ := exists_toQuery n built single times
  refine ⟨q, translated, fun index moment entry single times => ?_⟩
  obtain ⟨q', translated', same⟩ := exists_toQuery n built single times
  rw [translated] at translated'
  cases translated'
  exact same

/-- An index of integers, to which the text of a time is its place on the time line. -/
def timeIndex : Index Int where
  value _ s :=
    match s with
    | .num (.int i) => i
    | .str text =>
      match Timestamp.read text with
      | .ok t => t.instant
      | .error _ => 0
    | _ => 0
  fits _ _ := False
  related _ _ _ := False

/-- To it a written time is the time, if its offset can be written. -/
theorem timeIndex_value_text {field : String} {t : OffsetDateTime} (whole : t.offset.IsWholeMinutes) :
    timeIndex.value field (.str t.text) = t.instant := by
  unfold timeIndex
  dsimp only
  rw [Timestamp.read_text whole]
  rfl

/-- A filter on a time, on a number that may be missing, and on a list of numbers. -/
def scalarFilter : Node :=
  .and
    [.not (.comparison .neq ⟨"datetime"⟩ (.timestamp (.leapNoon ⟨3600000000, by decide⟩ (.fixed none)))),
      .or [.between ⟨"cloud"⟩ (.literal (.num (.int 0))) (.literal (.num (.int 10))), .isNull ⟨"cloud"⟩],
      .arrayComparison .contains (.property ⟨"bands"⟩)
        (.array [.literal (.num (.int 1)), .literal (.num (.int 2))])]

/-- An entry of that time, with three bands and no clouds. -/
def clearEntry : Entry Int := fun field =>
  if field = "properties.datetime" then [(OffsetDateTime.leapNoon ⟨3600000000, by decide⟩ (.fixed none)).instant]
  else if field = "bands" then [1, 2, 3]
  else []

/-- The query of the sample filter matches the entry exactly if the filter is true of it. -/
theorem exists_toQuery_matches_iff_scalarFilter :
    scalarFilter.Built IsScalarFilter ∧
      scalarFilter.Built (TestsSingle [("datetime", "properties.datetime")] clearEntry) ∧
      scalarFilter.Built (TimesRead timeIndex id [("datetime", "properties.datetime")]) ∧
      ∃ q, scalarFilter.toQuery [("datetime", "properties.datetime")] = .ok q ∧
        (q.Matches timeIndex clearEntry ↔
          scalarFilter.Holds timeIndex id [("datetime", "properties.datetime")] clearEntry) := by
  have built : scalarFilter.Built IsScalarFilter := by
    refine ⟨.comparison _ _ (.timestamp _), ⟨nofun, .between _ (.literal _) (.literal _), .isNull _, trivial⟩,
      .contains _ ?_, trivial⟩
    simp [IsScalarOperand.literal]
  have single : scalarFilter.Built (TestsSingle [("datetime", "properties.datetime")] clearEntry) := by
    simp [scalarFilter, Built, AllBuilt, TestsSingle, tested?, FieldMap.field, clearEntry, List.lookup]
  have times : scalarFilter.Built (TimesRead timeIndex id [("datetime", "properties.datetime")]) := by
    refine ⟨fun p t member => ?_, ⟨nofun, fun p t member => ?_, fun p t member => ?_, trivial⟩,
      fun p t member => ?_, trivial⟩
    · cases List.mem_singleton.1 member
      exact timeIndex_value_text (by decide)
    · simp [compared] at member
    · simp [compared] at member
    · simp [compared] at member
  obtain ⟨q, translated, same⟩ :=
    exists_toQuery_matches_iff [("datetime", "properties.datetime")] scalarFilter built
  exact ⟨built, single, times, q, translated, same timeIndex id clearEntry single times⟩

end Node

end CatalogFilter
