import CatalogFilter.Proofs.Calendar.Timestamp

/-!
# Written times are distinct

* `Date.text_inj` — a date is told by its text.
* `Offset.zone_inj` — so is an offset, to the microsecond, by the end of a written timestamp.
* `OffsetDateTime.text_inj` — a written time tells its clock and its offset.

Reading a timestamp back does not give this: offsets with seconds are written, but no timestamp that is read has them.
-/

namespace CatalogFilter

/-! ## Dates -/

/-- A date is told by its text. -/
theorem Date.text_inj {d e : Date} (same : d.text = e.text) : d = e := by
  have read := d.read_text
  rw [same, e.read_text] at read
  exact (Except.ok.inj read).symm

/-- A date is told by its characters, whatever stands behind them. -/
theorem Date.chars_append_inj {d e : Date} {rest rest' : List Char} (same : d.chars ++ rest = e.chars ++ rest') :
    d = e ∧ rest = rest' := by
  have lengths : d.chars.length = e.chars.length := by rw [length_chars, length_chars]
  obtain ⟨chars, rests⟩ := List.append_inj same lengths
  exact ⟨text_inj (congrArg String.ofList chars), rests⟩

/-! ## Times of day -/

namespace TimeOfDay

variable {t u : TimeOfDay}

/-- The fraction of a second is told by its digits. -/
theorem fraction_inj (same : pointed t.fraction = pointed u.fraction) : t.micro = u.micro := by
  have digits : t.fraction = u.fraction := by
    unfold pointed at same
    split at same <;> split at same <;> simp_all
  have filled {v : TimeOfDay} : Digits.value v.fraction = v.micro := by
    unfold fraction
    split
    · rename_i zero
      rw [zero]
      rfl
    · exact Digits.value_padded 6 v.micro
  rw [← filled (v := t), digits, filled]

/-- Hour, minute and second are told by their characters, whatever stands behind them. -/
theorem chars_seconds_append_inj {rest rest' : List Char} (same : t.chars .seconds ++ rest = u.chars .seconds ++ rest') :
    t.hour = u.hour ∧ t.minute = u.minute ∧ t.second = u.second ∧ rest = rest' := by
  simp only [chars_seconds, List.append_assoc, List.cons_append] at same
  obtain ⟨hour, same⟩ := Digits.padded_append_inj (by decide) t.hour_lt_width u.hour_lt_width same
  obtain ⟨minute, same⟩ :=
    Digits.padded_append_inj (by decide) t.minute_lt_width u.minute_lt_width (List.cons.inj same).2
  obtain ⟨second, rests⟩ :=
    Digits.padded_append_inj (by decide) t.second_lt_width u.second_lt_width (List.cons.inj same).2
  exact ⟨hour, minute, second, rests⟩

end TimeOfDay

/-! ## Offsets -/

namespace Offset

variable {o p : Offset}

/-- Seconds and their fraction are told by their characters. -/
theorem rest_inj (same : o.rest = p.rest) : o.seconds = p.seconds ∧ o.micro = p.micro := by
  unfold rest at same
  by_cases whole : o.seconds = 0 ∧ o.micro = 0
  · by_cases whole' : p.seconds = 0 ∧ p.micro = 0
    · exact ⟨whole.1.trans whole'.1.symm, whole.2.trans whole'.2.symm⟩
    · rw [if_pos whole, if_neg whole'] at same
      cases same
  · by_cases whole' : p.seconds = 0 ∧ p.micro = 0
    · rw [if_neg whole, if_pos whole'] at same
      cases same
    · rw [if_neg whole, if_neg whole', List.cons.injEq] at same
      obtain ⟨seconds, same⟩ := Digits.padded_append_inj (by decide) o.seconds_lt p.seconds_lt same.2
      refine ⟨seconds, ?_⟩
      split at same <;> rename_i micro <;> split at same <;> rename_i micro'
      · exact micro.trans micro'.symm
      · cases same
      · cases same
      · have values := congrArg Digits.value (List.cons.inj same).2
        rwa [Digits.value_padded, Digits.value_padded] at values

/-- An offset is told by the end of a written timestamp. -/
theorem zone_inj (same : o.zone = p.zone) : o = p := by
  have utc {q : Offset} : q.chars ≠ ['Z'] := by
    intro h
    rw [chars_eq, List.cons.injEq] at h
    rcases q.sign_eq with sign | sign <;> rw [sign] at h <;> exact absurd h.1 (by decide)
  have micros : o.micros = p.micros := by
    unfold zone at same
    by_cases zero : o.micros = 0
    · by_cases zero' : p.micros = 0
      · rw [zero, zero']
      · rw [if_pos zero, if_neg zero'] at same
        exact absurd same.symm utc
    · by_cases zero' : p.micros = 0
      · rw [if_neg zero, if_pos zero'] at same
        exact absurd same utc
      · rw [if_neg zero, if_neg zero', chars_eq, chars_eq, List.cons.injEq] at same
        obtain ⟨sign, same⟩ := same
        obtain ⟨hours, same⟩ := Digits.padded_append_inj (by decide) o.hours_lt p.hours_lt same
        obtain ⟨minutes, same⟩ :=
          Digits.padded_append_inj (by decide) o.minutes_lt p.minutes_lt (List.cons.inj same).2
        obtain ⟨seconds, micro⟩ := rest_inj same
        have negative : o.micros < 0 ↔ p.micros < 0 := by
          unfold Offset.sign at sign
          split at sign <;> split at sign <;> first | omega | cases sign
        unfold Offset.hours Offset.minutes Offset.seconds Offset.micro at *
        omega
  cases o
  cases p
  cases micros
  rfl

end Offset

/-! ## Timestamps -/

namespace OffsetDateTime

/-- A fraction behind its point consists of digits and the point. -/
theorem isFraction {t : TimeOfDay} : ∀ c ∈ pointed t.fraction, (c.isDigit || c == '.') = true := by
  intro c h
  unfold pointed at h
  split at h
  · cases h
  · rcases List.mem_cons.1 h with rfl | digit
    · rfl
    · rw [TimeOfDay.isDigit_of_mem_fraction digit]
      rfl

/-- A written time tells its clock and its offset. -/
theorem text_inj {t u : OffsetDateTime} (same : t.text = u.text) : t.clock = u.clock ∧ t.offset = u.offset := by
  have chars := congrArg String.toList same
  rw [toList_text, toList_text] at chars
  obtain ⟨date, chars⟩ := Date.chars_append_inj chars
  obtain ⟨hour, minute, second, chars⟩ := TimeOfDay.chars_seconds_append_inj (List.cons.inj chars).2
  have stops (o : Offset) : Text.Stops (fun c => c.isDigit || c == '.') o.zone := o.stops_zone rfl rfl rfl
  obtain ⟨fraction, zone⟩ := Text.run_append_inj isFraction isFraction (stops _) (stops _) chars
  have micro := TimeOfDay.fraction_inj fraction
  obtain ⟨⟨d, ⟨_, _, _, _, _, _, _, _⟩⟩, o, z⟩ := t
  obtain ⟨⟨d', ⟨_, _, _, _, _, _, _, _⟩⟩, o', z'⟩ := u
  dsimp only at *
  subst date hour minute second micro
  exact ⟨rfl, Offset.zone_inj zone⟩

end OffsetDateTime

end CatalogFilter
