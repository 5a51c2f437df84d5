import CatalogFilter.Proofs.Calendar.Written

/-!
# Equality of times across zones

* `OffsetDateTime.equal_self` — a time equals itself, whatever its zone.
* `OffsetDateTime.equal_iff_of_fixed` — beside a fixed offset the instants count, and an ambiguous time is equal to
  nothing.
* `OffsetDateTime.equal_named` — a time equals what comes back from its text exactly if it is not ambiguous.

Where a region puts its clocks back, they show an hour twice, and where it puts them forward, they skip one. A time of such
an hour is ambiguous: it equals the times of its own region that have the same clock, and none that only has its offset.
-/

namespace CatalogFilter

/-! ## Zones -/

namespace Zone

@[simp] theorem sameRegion_fixed_left (written : Option String) (z : Zone) : sameRegion (.fixed written) z = false := rfl

@[simp] theorem sameRegion_fixed_right (z : Zone) (written : Option String) : sameRegion z (.fixed written) = false := by
  cases z <;> rfl

/-- An offset that is the same at all times belongs to no region. -/
theorem sameRegion_self {z : Zone} (h : ∀ written, z ≠ .fixed written) : z.sameRegion z = true := by
  cases z with
  | fixed written => exact absurd rfl (h written)
  | region name later otherwise => exact beq_self_eq_true name

/-- A region in the first of the two hours that it calls the same. An hour later its clocks are five hours behind
universal time. -/
def newYork : Zone :=
  .region "America/New_York" false ⟨-18000000000, by decide⟩

/-- A region whose clocks are four hours behind universal time in every season. -/
def puertoRico : Zone :=
  .region "America/Puerto_Rico" false ⟨-14400000000, by decide⟩

end Zone

/-! ## Times -/

namespace OffsetDateTime

/-- Whether the time has an offset that is the same at all times. -/
def IsFixed (t : OffsetDateTime) : Prop :=
  ∃ written, t.zone = .fixed written

/-- A fixed offset leaves no doubt. -/
theorem IsFixed.isAmbiguous {t : OffsetDateTime} (fixed : t.IsFixed) : t.isAmbiguous = false := by
  obtain ⟨written, zone⟩ := fixed
  simp only [OffsetDateTime.isAmbiguous, zone]

/-- What comes back from a text has a fixed offset. -/
theorem isFixed_named (t : OffsetDateTime) : t.named.IsFixed :=
  ⟨t.offset.name?, rfl⟩

@[simp] theorem instant_named (t : OffsetDateTime) : t.named.instant = t.instant := rfl

/-- Beside a fixed offset the instants count, and an ambiguous time is equal to nothing. -/
theorem equal_iff_of_fixed {t u : OffsetDateTime} (fixed : t.IsFixed) :
    t.equal u = true ↔ t.instant = u.instant ∧ u.isAmbiguous = false := by
  obtain ⟨written, zone⟩ := id fixed
  simp [equal, zone, fixed.isAmbiguous]

/-- A time equals itself: by its clock within its region, and by its instant with a fixed offset. -/
theorem equal_self (t : OffsetDateTime) : t.equal t = true := by
  cases zone : t.zone with
  | fixed written => exact (equal_iff_of_fixed ⟨written, zone⟩).2 ⟨rfl, IsFixed.isAmbiguous ⟨written, zone⟩⟩
  | region name later otherwise =>
    have region : t.zone.sameRegion t.zone = true := Zone.sameRegion_self fun written fixed => by simp [zone] at fixed
    rw [equal, if_pos region]
    exact decide_eq_true rfl

/-- A time equals what comes back from its text exactly if it is not ambiguous. -/
theorem equal_named (t : OffsetDateTime) : t.named.equal t = true ↔ t.isAmbiguous = false := by
  rw [equal_iff_of_fixed t.isFixed_named]
  exact and_iff_right t.instant_named

/-- Whether the zones of two times leave no doubt about them: they are of the same region, or neither is ambiguous. -/
def ZonesAgree (t u : OffsetDateTime) : Prop :=
  t.zone.sameRegion u.zone = true ∨ t.isAmbiguous = false ∧ u.isAmbiguous = false

/-- Times with the same clock and offset are equal exactly if their zones agree. -/
theorem equal_iff_of_named {t u : OffsetDateTime} (same : t.named = u.named) : t.equal u = true ↔ t.ZonesAgree u := by
  have clock : t.named.clock = u.named.clock := by rw [same]
  have instant : t.named.instant = u.named.instant := by rw [same]
  rw [instant_named, instant_named] at instant
  change t.clock = u.clock at clock
  simp [equal, ZonesAgree, clock, instant]

/-- Half past one of a night in which clocks are put back from two to one, four hours behind universal time. -/
def autumnNight (zone : Zone) : OffsetDateTime :=
  ⟨⟨⟨2024, 11, 3, by decide⟩, ⟨1, 30, 0, 0, by decide, by decide, Nat.zero_lt_succ 59, by decide⟩⟩,
    ⟨-14400000000, by decide⟩, zone⟩

/-- So the time does not equal what comes back from its text, although it is the same instant. -/
example : (autumnNight .newYork).named.equal (autumnNight .newYork) = false := by decide

end OffsetDateTime

/-- A date and time equals itself, with an offset or without. -/
theorem DateTime.equal_self (d : DateTime) : d.equal d = true := by
  cases d with
  | naive clock => exact decide_eq_true rfl
  | aware t => exact t.equal_self

end CatalogFilter
