import CatalogFilter.Construct
import CatalogFilter.Proofs.Calendar.Timestamp
import CatalogFilter.Proofs.Document.Argument

/-!
# What a written timestamp keeps

* `OffsetDateTime.toList_textAt_eq_zulu` — a text is the form with the offset in figures, where `Z` takes the place of a
  final `+00:00`.
* `TimeOfDay.micros_cut` — cutting a time off leaves the multiple of the unit of the precision that is next below it.
* `readTimestamp_textAt` — which texts are read, and as what: those with seconds whose offset is a whole number of
  minutes, as the clock that is cut off at the precision, and with the offset.

Where the two fail to fit is at the offset: it is written with seconds and microseconds where it has any, and read with
hours and minutes only.
-/

namespace CatalogFilter

/-! ## The letter of offset zero -/

/-- The figures of offset zero. -/
def zeroOffset : List Char :=
  ['+', '0', '0', ':', '0', '0']

/-- A text with `Z` for a final zero offset. -/
def zulu (cs : List Char) : List Char :=
  if zeroOffset <:+ cs then cs.take (cs.length - zeroOffset.length) ++ ['Z'] else cs

namespace Offset

variable {o : Offset}

/-- Only offset zero is written with a plus and zeros. -/
theorem chars_eq_zeroOffset : o.chars = zeroOffset ↔ o.micros = 0 := by
  constructor
  · intro written
    rw [chars_eq, zeroOffset, List.cons.injEq] at written
    obtain ⟨sign, written⟩ := written
    have figures : Digits.padded 2 o.hours ++ ':' :: (Digits.padded 2 o.minutes ++ o.rest) =
        Digits.padded 2 0 ++ ':' :: (Digits.padded 2 0 ++ []) := written
    obtain ⟨hours, figures⟩ := Digits.padded_append_inj (by decide) o.hours_lt (by decide) figures
    obtain ⟨minutes, rest⟩ :=
      Digits.padded_append_inj (by decide) o.minutes_lt (by decide) (List.cons.inj figures).2
    have whole : o.IsWholeMinutes := by
      refine Decidable.byContradiction fun broken => ?_
      obtain ⟨cs, seconds⟩ := exists_rest_eq_cons broken
      rw [seconds] at rest
      cases rest
    rw [← micros_of_isWholeMinutes whole, sign, hours, minutes]
    decide
  · intro utc
    have same : o = .utc := by
      cases o
      cases utc
      rfl
    rw [same]
    decide

/-- Whatever stands before it, no other offset ends a text like offset zero: the last sign is its own. -/
theorem zeroOffset_suffix_iff {before : List Char} : zeroOffset <:+ before ++ o.chars ↔ o.micros = 0 := by
  refine ⟨fun ending => chars_eq_zeroOffset.1 ?_, fun utc => ?_⟩
  · have own : o.figures <:+ before ++ o.chars := by
      refine ⟨before ++ [o.sign], ?_⟩
      rw [chars_eq, figures, List.append_assoc, List.singleton_append]
    have minutes : 5 ≤ o.figures.length := by
      have hours := Digits.length_padded (by decide) o.hours_lt
      have minutes := Digits.length_padded (by decide) o.minutes_lt
      rw [figures, List.length_append, List.length_cons, List.length_append, hours, minutes]
      omega
    have short : o.figures.length < zeroOffset.length := by
      refine Nat.lt_of_not_le fun long => ?_
      have inside := List.suffix_of_suffix_length_le ending own long
      exact not_mem_figures (by decide) (inside.mem (List.mem_cons_self (a := '+')))
    have length : o.chars.length = zeroOffset.length := by
      have written : o.chars = o.sign :: o.figures := o.chars_eq
      rw [written, List.length_cons]
      change o.figures.length < 6 at short
      change o.figures.length + 1 = 6
      omega
    exact ((List.suffix_of_suffix_length_le ending (List.suffix_append before o.chars) length.ge).eq_of_length
      length.symm).symm
  · rw [chars_eq_zeroOffset.2 utc]
    exact List.suffix_append before zeroOffset

end Offset

/-- A text is the form with the offset in figures, where `Z` takes the place of a final zero offset. -/
theorem OffsetDateTime.toList_textAt_eq_zulu (t : OffsetDateTime) (p : Precision) :
    (t.textAt p).toList = zulu (t.chars 'T' p) := by
  have ending : zeroOffset <:+ t.chars 'T' p ↔ t.offset.micros = 0 := Offset.zeroOffset_suffix_iff
  rw [textAt, String.toList_ofList, zulu]
  by_cases utc : t.offset.micros = 0
  · rw [if_pos utc, if_pos (ending.2 utc), chars, Offset.chars_eq_zeroOffset.2 utc, List.length_append,
      Nat.add_sub_cancel, List.take_left]
  · rw [if_neg utc, if_neg (mt ending.1 utc)]

/-! ## Cutting off -/

/-- What is left is the multiple of the unit that is next below the time. -/
theorem TimeOfDay.micros_cut (t : TimeOfDay) (p : Precision) : (t.cut p).micros = t.micros / p.unit * p.unit := by
  have below := t.micro_lt
  cases p <;> simp only [micros, cut, Precision.unit] <;> omega

/-! ## Reading back -/

/-- A time without an offset is read as universal time, and keeps its date and its time of day. -/
theorem DateTime.clock_toAware (d : DateTime) : d.toAware.clock = d.clock := by
  cases d <;> rfl

theorem DateTime.offset_toAware (d : DateTime) : d.toAware.offset = d.offset?.getD .utc := by
  cases d <;> rfl

/-- What the text of a date and time is read as. A time without an offset is taken to be universal time, by a node as by its
text. The text is read exactly if its seconds are written and the offset is a whole number of minutes; then date, offset and
all of the time that is written come back, which with microseconds is the time itself. A `Z` ends the text exactly if the
offset is zero. -/
theorem readTimestamp_textAt (op : String) (d : DateTime) (p : Precision) :
    ∃ t, Construct.dateTime? (.datetime d) = some t ∧ t.clock = d.clock ∧ t.offset = d.offset?.getD .utc ∧
      t.textAt p = d.textAt p ∧
      ((∃ u, Document.readTimestamp op (.str (d.textAt p)) = .ok u) ↔ t.offset.IsWholeMinutes ∧ p.ShowsSeconds) ∧
      (∀ u, Document.readTimestamp op (.str (d.textAt p)) = .ok u →
        u.clock.date = d.clock.date ∧ u.clock.time = d.clock.time.cut p ∧ u.offset = t.offset ∧
          (p = .auto ∨ p = .microseconds → u.clock = d.clock)) ∧
      ((d.textAt p).toList.getLast? = some 'Z' ↔ t.offset.micros = 0) := by
  let t : OffsetDateTime := d.toAware
  have clock : t.clock = d.clock := d.clock_toAware
  have reads (u : OffsetDateTime) :
      Document.readTimestamp op (.str (t.textAt p)) = .ok u ↔ Timestamp.read (t.textAt p) = .ok u :=
    Document.readTimestamp_eq_ok.trans ⟨fun ⟨read⟩ => read, .intro⟩
  have only (u : OffsetDateTime) (read : Timestamp.read (t.textAt p) = .ok u) :
      t.offset.IsWholeMinutes ∧ p.ShowsSeconds := by
    have seconds : p.ShowsSeconds := by
      refine Decidable.byContradiction fun coarse => ?_
      rw [Timestamp.read_textAt_of_not_showsSeconds coarse] at read
      cases read
    refine ⟨Decidable.byContradiction fun broken => ?_, seconds⟩
    rw [Timestamp.read_textAt_of_not_isWholeMinutes broken seconds] at read
    cases read
  refine ⟨t, rfl, clock, d.offset_toAware, rfl, ⟨?_, ?_⟩, ?_, t.getLast?_textAt p⟩
  · rintro ⟨u, read⟩
    exact only u ((reads u).1 read)
  · rintro ⟨whole, seconds⟩
    exact ⟨_, (reads _).2 (Timestamp.read_textAt whole seconds)⟩
  · intro u read
    rw [← clock]
    replace read := (reads u).1 read
    obtain ⟨whole, seconds⟩ := only u read
    rw [Timestamp.read_textAt whole seconds] at read
    cases read
    refine ⟨rfl, rfl, rfl, ?_⟩
    rintro (rfl | rfl)
    · exact congrArg (LocalDateTime.mk t.clock.date) (TimeOfDay.cut_of_unit_eq_one rfl)
    · exact congrArg (LocalDateTime.mk t.clock.date) (TimeOfDay.cut_of_unit_eq_one rfl)

/-- Half a second past noon, an hour and a second ahead of universal time: written, and not read. -/
example : (OffsetDateTime.leapNoon ⟨3601000000, by decide⟩ (.fixed none)).textAt .milliseconds =
      "2024-02-29T12:00:00.500+01:00:01" ∧
    (Timestamp.read "2024-02-29T12:00:00.500+01:00:01").isOk = false :=
  ⟨by cbv, by cbv⟩

end CatalogFilter
