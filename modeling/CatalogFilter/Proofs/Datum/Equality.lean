import CatalogFilter.Datum.Equality
import CatalogFilter.Proofs.Calendar.Zones

/-!
# Values that equal themselves

* `Datum.Numbers` — every number of a decoded value, at any depth, has a property.
* `Number.equal_self` — a number equals itself unless it is not a number.
* `Datum.equal_self` — so does a decoded value without such a number.
-/

namespace CatalogFilter

/-! ## Numbers -/

/-- Whether a number is not a number. -/
def Number.IsNan (n : Number) : Prop :=
  n = .float .nan

instance (n : Number) : Decidable n.IsNan :=
  inferInstanceAs (Decidable (_ = _))

/-- A binary number has the value it has, unless it has none. -/
theorem Binary64.sameValue_self {x : Binary64} (h : x ≠ .nan) : x.sameValue x = true := by
  cases x with
  | nan => exact absurd rfl h
  | infinite negative => simp [sameValue]
  | finite negative exponent fraction =>
    obtain ⟨a, d, value⟩ : ∃ a d, (finite negative exponent fraction).fraction? = some (a, d) := by
      unfold fraction?
      split
      · cases scale _ <;> exact ⟨_, _, rfl⟩
      · rename_i notFinite
        exact absurd rfl (notFinite negative exponent fraction)
    simp [sameValue, value]

/-- A number equals itself unless it is not a number. -/
theorem Number.equal_self {n : Number} (h : ¬ n.IsNan) : n.equal n = true := by
  cases n with
  | int i => exact equal_int_self i
  | float x => exact Binary64.sameValue_self fun nan => h (congrArg Number.float nan)

namespace Datum

mutual

/-- Whether every number of a value has a property. -/
def Numbers (p : Number → Prop) : Datum → Prop
  | .num n => p n
  | .list items => AllNumbers p items
  | .tuple items => AllNumbers p items
  | .object members => MemberNumbers p members
  | _ => True

/-- `Numbers` of each item. -/
def AllNumbers (p : Number → Prop) : List Datum → Prop
  | [] => True
  | d :: rest => Numbers p d ∧ AllNumbers p rest

/-- `Numbers` of each member's value. -/
def MemberNumbers (p : Number → Prop) : List (String × Datum) → Prop
  | [] => True
  | (_, d) :: rest => Numbers p d ∧ MemberNumbers p rest

end

section Numbers

variable {p : Number → Prop}

/-- The items of a list one by one. -/
theorem allNumbers_iff (items : List Datum) : AllNumbers p items ↔ ∀ d ∈ items, d.Numbers p := by
  induction items with
  | nil => simp [AllNumbers]
  | cons d rest ih => simp [AllNumbers, ih]

/-- The members of an object one by one. -/
theorem memberNumbers_iff (members : List (String × Datum)) :
    MemberNumbers p members ↔ ∀ m ∈ members, m.2.Numbers p := by
  induction members with
  | nil => simp [MemberNumbers]
  | cons m rest ih => simp [MemberNumbers, ih]

/-- A member of an object has only numbers of the object. -/
theorem numbers_of_lookup {members : List (String × Datum)} (h : MemberNumbers p members) {name : String}
    {d : Datum} (found : members.lookup name = some d) : d.Numbers p := by
  induction members with
  | nil => cases found
  | cons m rest ih =>
    obtain ⟨key, value⟩ := m
    rw [List.lookup_cons] at found
    split at found
    · cases found
      exact h.1
    · exact ih h.2 found

mutual

/-- Freezing changes no number. -/
theorem numbers_freeze (d : Datum) (h : d.Numbers p) : d.freeze.Numbers p := by
  cases d with
  | list items => exact allNumbers_freezeAll items h
  | tuple items => exact allNumbers_freezeAll items h
  | _ => exact h

theorem allNumbers_freezeAll (items : List Datum) (h : AllNumbers p items) : AllNumbers p (freezeAll items) := by
  cases items with
  | nil => trivial
  | cons d rest => exact ⟨numbers_freeze d h.1, allNumbers_freezeAll rest h.2⟩

end

mutual

/-- Thawing changes no number. -/
theorem numbers_thaw (d : Datum) (h : d.Numbers p) : d.thaw.Numbers p := by
  cases d with
  | list items => exact allNumbers_thawAll items h
  | tuple items => exact allNumbers_thawAll items h
  | _ => exact h

theorem allNumbers_thawAll (items : List Datum) (h : AllNumbers p items) : AllNumbers p (thawAll items) := by
  cases items with
  | nil => trivial
  | cons d rest => exact ⟨numbers_thaw d h.1, allNumbers_thawAll rest h.2⟩

end

end Numbers

/-! ## Equality -/

/-- A value without numbers that are not numbers. -/
abbrev NanFree (d : Datum) : Prop :=
  d.Numbers fun n => ¬ n.IsNan

/-- Every member equals the one that its name leads to among members that it stands among. `before` are the
members in front of it, whose names have been seen. -/
theorem equalMembers_append (members : List (String × Datum))
    (same : ∀ m ∈ members, equal m.2 m.2 = true) (before : List (String × Datum)) :
    equalMembers (before.map (·.1)).reverse members (before ++ members) = true := by
  induction members generalizing before with
  | nil => rfl
  | cons m rest ih =>
    obtain ⟨name, x⟩ := m
    have later := ih (fun m hm => same m (List.mem_cons_of_mem _ hm)) (before ++ [(name, x)])
    rw [List.map_append, List.reverse_append, List.append_assoc] at later
    rw [equalMembers, Bool.and_eq_true]
    refine ⟨?_, later⟩
    by_cases seen : name ∈ before.map (·.1)
    · simp [seen]
    · have found : (before ++ (name, x) :: rest).lookup name = some x := by
        rw [List.lookup_append, List.lookup_eq_none_iff.2 ?_, Option.none_or, List.lookup_cons_self]
        intro m hm
        rw [bne_iff_ne]
        rintro rfl
        exact seen (List.mem_map_of_mem hm)
      have itself : equal x x = true := same _ List.mem_cons_self
      simp only [found, itself, Bool.or_true]

mutual

/-- A value equals itself if no number in it is not a number. -/
theorem equal_self (d : Datum) (h : d.NanFree) : equal d d = true := by
  cases d with
  | null => rfl
  | bool b => simp [equal]
  | num n => simpa [equal] using Number.equal_self h
  | str s => simp
  | list items => simpa [equal] using equalAll_self items h
  | tuple items => simpa [equal] using equalAll_self items h
  | object members =>
    rw [equal, Bool.and_eq_true, List.all_eq_true]
    refine ⟨equalMembers_append members (equal_self_of_mem members h) [], fun m hm => ?_⟩
    exact List.any_eq_true.2 ⟨m, hm, beq_self_eq_true m.1⟩
  | datetime d =>
    rw [equal]
    exact d.equal_self
  | date d => simp [equal]
  | other f => simp [equal]

theorem equalAll_self (items : List Datum) (h : AllNumbers (fun n => ¬ n.IsNan) items) :
    equalAll items items = true := by
  cases items with
  | nil => rfl
  | cons d rest => rw [equalAll, equal_self d h.1, equalAll_self rest h.2, Bool.and_self]

theorem equal_self_of_mem (members : List (String × Datum)) (h : MemberNumbers (fun n => ¬ n.IsNan) members) :
    ∀ m ∈ members, equal m.2 m.2 = true := by
  cases members with
  | nil => exact fun _ hm => absurd hm List.not_mem_nil
  | cons m rest =>
    obtain ⟨name, d⟩ := m
    have first : equal d d = true := equal_self d h.1
    have later := equal_self_of_mem rest h.2
    intro m hm
    rcases List.mem_cons.1 hm with rfl | hm
    · exact first
    · exact later m hm

end

end Datum

end CatalogFilter
