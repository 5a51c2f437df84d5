import CatalogFilter.Proofs.Calendar.Zones
import CatalogFilter.Proofs.Outcome
import CatalogFilter.Proofs.Text.Runs

/-!
# Written timestamps

* `Timestamp.match?_written` — a date, a time to the second, a fraction and a zone have the form of a timestamp, and
  these are its parts, if the offset is a whole number of minutes. Other offsets are written with seconds, which no
  timestamp has.
* `Timestamp.read_textAt` — a written time is read as what was written of it.
* `Timestamp.read_textAt_of_not_isWholeMinutes`, `Timestamp.read_textAt_of_not_showsSeconds` — with another offset, or
  without its seconds, it is not read at all.
* `Timestamp.read_text` — at full precision a time is read as itself, up to the name of the offset.
* `Timestamp.isFixed_of_read` — and no other offset is ever read, nor a time of a region.
-/

namespace CatalogFilter

/-- A zone ends a run of characters if neither its letter nor a sign may stand in the run. -/
theorem Offset.stops_zone {p : Char → Bool} (letter : p 'Z' = false) (plus : p '+' = false) (minus : p '-' = false)
    (o : Offset) : Text.Stops p o.zone := by
  obtain ⟨c, rest, zone, first⟩ := o.exists_zone_eq_cons
  rw [zone, Text.stops_cons]
  simp only [List.mem_cons, List.not_mem_nil, or_false] at first
  rcases first with rfl | rfl | rfl
  · exact letter
  · exact plus
  · exact minus

namespace Timestamp

/-- Written timestamps are in capitals. -/
theorem toUpper_of_isWritten {c : Char} (h : IsWritten c) : c.toUpper = c := by
  rcases h with h | h
  · have small : ¬ (97 ≤ c.val) := by
      simp only [Char.isDigit, Bool.and_eq_true, decide_eq_true_eq, UInt32.le_iff_toNat_le] at h ⊢
      have high : c.val.toNat ≤ 57 := h.2
      exact Nat.not_le.2 (Nat.lt_of_le_of_lt high (by decide))
    simp [Char.toUpper, small]
  · simp only [List.mem_cons, List.not_mem_nil, or_false] at h
    rcases h with rfl | rfl | rfl | rfl | rfl | rfl <;> rfl

/-- The fourteen digits of a date and time. -/
def fieldsOf (d : LocalDateTime) : List Char :=
  Digits.padded 4 d.date.year ++ (Digits.padded 2 d.date.month ++ (Digits.padded 2 d.date.day ++
    (Digits.padded 2 d.time.hour ++ (Digits.padded 2 d.time.minute ++ Digits.padded 2 d.time.second))))

/-- The parts of a written timestamp. -/
def partsOf (d : LocalDateTime) (fraction : List Char) (o : Offset) : Parts where
  digits := fieldsOf d
  fraction := fraction
  offset := if o.micros = 0 then none else
    some (o.sign, Digits.padded 2 o.hours ++ Digits.padded 2 o.minutes)

/-- The places of a date and time take the fields of written ones. -/
theorem take_written (d : LocalDateTime) (text : List Char) :
    Digits.take Text.isDecimalDigit "0000-00-00T00:00:00".toList
        (d.date.chars ++ 'T' :: (d.time.chars .seconds ++ text)) =
      some (fieldsOf d, text) := by
  have accepts : ∀ c, c.isDigit = true → Text.isDecimalDigit c = true :=
    fun _ => Text.isDecimalDigit_of_isDigit
  have places : "0000-00-00T00:00:00".toList = "0000-00-00".toList ++
      'T' :: (List.replicate 2 '0' ++ ':' :: (List.replicate 2 '0' ++ ':' :: (List.replicate 2 '0' ++ []))) := rfl
  rw [places, Date.take_chars _ accepts, Digits.take_cons_mark (by decide), TimeOfDay.chars_seconds]
  simp only [List.append_assoc, List.cons_append]
  rw [Digits.take_padded accepts (by decide) d.time.hour_lt_width, Digits.take_cons_mark (by decide),
    Digits.take_padded accepts (by decide) d.time.minute_lt_width, Digits.take_cons_mark (by decide),
    Digits.take_padded accepts (by decide) d.time.second_lt_width, Digits.take_nil]
  simp [fieldsOf]

/-- The places of an offset take its hours and minutes, and leave what is written behind them. -/
theorem take_figures (o : Offset) :
    Digits.take Text.isDecimalDigit ['0', '0', ':', '0', '0'] o.figures =
      some (Digits.padded 2 o.hours ++ Digits.padded 2 o.minutes, o.rest) := by
  have accepts : ∀ c, c.isDigit = true → Text.isDecimalDigit c = true :=
    fun _ => Text.isDecimalDigit_of_isDigit
  have places : ['0', '0', ':', '0', '0'] = List.replicate 2 '0' ++ ':' :: (List.replicate 2 '0' ++ []) := rfl
  rw [places, Offset.figures, Digits.take_padded accepts (by decide) o.hours_lt, Digits.take_cons_mark (by decide),
    Digits.take_padded accepts (by decide) o.minutes_lt, Digits.take_nil]
  simp

/-- A sign and the digits of hours and minutes are read as an offset, if at most a line end stands behind them. -/
theorem matchOffset_of_sign {sign : Char} (h : sign = '+' ∨ sign = '-') {cs ds rest : List Char}
    (digits : Digits.take Text.isDecimalDigit ['0', '0', ':', '0', '0'] cs = some (ds, rest)) :
    matchOffset (sign :: cs) = if rest = [] ∨ rest = ['\n'] then some (some (sign, ds)) else none := by
  rcases h with rfl | rfl
  · simp [matchOffset, digits]
  · simp [matchOffset, digits]

/-- The zone of an offset of whole minutes is read as its sign and digits, and no other. -/
theorem matchOffset_zone (o : Offset) (d : LocalDateTime) (fraction : List Char) :
    matchOffset o.zone = if o.IsWholeMinutes then some (partsOf d fraction o).offset else none := by
  by_cases utc : o.micros = 0
  · simp [Offset.zone, partsOf, Offset.IsWholeMinutes, utc, matchOffset]
  · have written : o.zone = o.sign :: o.figures := (if_neg utc).trans o.chars_eq
    rw [written, matchOffset_of_sign o.sign_eq (take_figures o), partsOf, if_neg utc]
    by_cases whole : o.IsWholeMinutes
    · rw [if_pos (.inl (Offset.rest_of_isWholeMinutes whole)), if_pos whole]
    · obtain ⟨cs, seconds⟩ := Offset.exists_rest_eq_cons whole
      rw [seconds, if_neg (by simp), if_neg whole]

/-- A written timestamp has the form of one if its offset has no seconds, and these are its parts. -/
theorem match?_written (o : Offset) (d : LocalDateTime) {fraction : List Char}
    (digits : ∀ c ∈ fraction, c.isDigit = true) :
    match? (d.date.chars ++ 'T' :: (d.time.chars .seconds ++ (pointed fraction ++ o.zone))) =
      if o.IsWholeMinutes then some (partsOf d fraction o) else none := by
  have offset := matchOffset_zone o d fraction
  unfold match?
  rw [take_written]
  by_cases none : fraction = []
  · subst none
    rw [pointed, if_pos rfl, List.nil_append]
    simp only [Option.bind_eq_bind, Option.bind_some]
    split
    · rename_i point
      have stops := o.stops_zone (p := (· == '.')) rfl rfl rfl
      rw [point, Text.stops_cons] at stops
      exact absurd stops (by decide)
    · rw [offset]
      split <;> rfl
  · have decimal : ∀ c ∈ fraction, Text.isDecimalDigit c = true :=
      fun c hc => Text.isDecimalDigit_of_isDigit (digits c hc)
    have stops : Text.Stops Text.isDecimalDigit o.zone := o.stops_zone (by decide) (by decide) (by decide)
    have taken : (fraction ++ o.zone).takeWhile Text.isDecimalDigit = fraction := Text.takeWhile_run decimal stops
    have left : (fraction ++ o.zone).dropWhile Text.isDecimalDigit = o.zone := Text.dropWhile_run decimal stops
    rw [pointed, if_neg none, List.cons_append]
    simp only [Option.bind_eq_bind, Option.bind_some, taken, left, offset, if_neg none]
    split <;> rfl

/-- Without seconds a timestamp has not the form of one: where a colon has to stand, its zone begins. -/
theorem match?_textAt_of_not_showsSeconds (t : OffsetDateTime) {p : Precision} (coarse : ¬ p.ShowsSeconds) :
    match? (t.textAt p).toList = none := by
  have accepts : ∀ c, c.isDigit = true → Text.isDecimalDigit c = true :=
    fun _ => Text.isDecimalDigit_of_isDigit
  obtain ⟨c, rest, hzone, first⟩ := t.offset.exists_zone_eq_cons
  have notColon : c ≠ ':' := by
    rintro rfl
    exact absurd first (by decide)
  have places : "0000-00-00T00:00:00".toList = "0000-00-00".toList ++
      'T' :: (List.replicate 2 '0' ++ ':' :: (List.replicate 2 '0' ++ ':' :: List.replicate 2 '0')) := rfl
  have failed : Digits.take Text.isDecimalDigit "0000-00-00T00:00:00".toList (t.textAt p).toList = none := by
    rw [OffsetDateTime.toList_textAt, places, Date.take_chars _ accepts, Digits.take_cons_mark (by decide)]
    cases p with
    | hours =>
      rw [TimeOfDay.chars, Digits.take_padded accepts (by decide) t.clock.time.hour_lt_width, hzone,
        Digits.take_cons_of_ne (by decide) notColon]
      rfl
    | minutes =>
      rw [TimeOfDay.chars, List.append_assoc, List.cons_append,
        Digits.take_padded accepts (by decide) t.clock.time.hour_lt_width, Digits.take_cons_mark (by decide),
        Digits.take_padded accepts (by decide) t.clock.time.minute_lt_width, hzone,
        Digits.take_cons_of_ne (by decide) notColon]
      rfl
    | _ => exact absurd ⟨by decide, by decide⟩ coarse
  rw [match?, failed]
  rfl

/-! ## Reading back -/

/-- A padded fraction stands for its number of parts: no digit is rounded, and none is cut off. -/
theorem micros_padded {width n : Nat} (pos : 0 < width) (short : width ≤ 6) (h : n < 10 ^ width) :
    micros (Digits.padded width n) = n * 1000000 / 10 ^ width := by
  have length : (Digits.padded width n).length = width := Digits.length_padded pos h
  have exact : (Nat.toDigits 10 n).length - 28 = 0 := by
    have := (Nat.length_toDigits_le_iff (by decide) pos).2 h
    omega
  have unrounded : Binary64.roundHalfEven n 1 = n := by
    simp [Binary64.roundHalfEven, Nat.mod_one]
  simp only [micros, Digits.value_padded, exact, length, Nat.pow_zero, unrounded, Nat.mul_one]

/-- A fraction stands for the microseconds that are left at its precision. -/
theorem micros_fractionAt (t : TimeOfDay) (p : Precision) : micros (t.fractionAt p) = (t.cut p).micro := by
  have sixth : micros (Digits.padded 6 t.micro) = t.micro / 1 * 1 := by
    rw [micros_padded (by decide) (by decide) t.micro_lt_width]
    omega
  have third : micros (Digits.padded 3 (t.micro / 1000)) = t.micro / 1000 * 1000 := by
    rw [micros_padded (by decide) (by decide) t.milli_lt_width]
    omega
  have none : micros [] = t.micro / 1000000 * 1000000 := by
    rw [Nat.div_eq_of_lt t.micro_lt]
    decide
  cases p with
  | auto =>
    rw [TimeOfDay.fractionAt, TimeOfDay.fraction]
    split
    · rename_i whole
      rw [none, TimeOfDay.cut_of_unit_eq_one rfl, whole]
    · exact sixth
  | milliseconds => exact third
  | microseconds => exact sixth
  | _ => exact none

/-- The offset of whole minutes that sign and digits stand for. -/
theorem readOffset_partsOf {o : Offset} (whole : o.IsWholeMinutes) (d : LocalDateTime) (fraction : List Char) :
    readOffset (partsOf d fraction o).offset = .ok o := by
  by_cases utc : o.micros = 0
  · rw [partsOf, if_pos utc, readOffset]
    cases o
    cases utc
    rfl
  · have hours : (Digits.padded 2 o.hours).length = 2 := Digits.length_padded (by decide) o.hours_lt
    rw [partsOf, if_neg utc, readOffset]
    simp only [List.take_left' hours, List.drop_left' hours, Digits.value_padded]
    rw [← Offset.make_micros o]
    exact congrArg Offset.make (Offset.micros_of_isWholeMinutes whole)

/-- The name that a text gives to its offset. -/
theorem zoneName_partsOf {o : Offset} (whole : o.IsWholeMinutes) (d : LocalDateTime) (fraction : List Char) :
    (partsOf d fraction o).offset.map zoneName = o.name? := by
  by_cases utc : o.micros = 0
  · rw [partsOf, Offset.name?, if_pos utc, if_pos utc]
    rfl
  · have hours : (Digits.padded 2 o.hours).length = 2 := Digits.length_padded (by decide) o.hours_lt
    rw [partsOf, Offset.name?, if_neg utc, if_neg utc, Option.map_some, zoneName,
      Offset.chars_eq, Offset.rest_of_isWholeMinutes whole, List.append_nil, List.take_left' hours,
      List.drop_left' hours, List.cons_append]

/-- Every digit of the parts is an ASCII digit. -/
theorem isDigit_partsOf {fraction : List Char} (digits : ∀ c ∈ fraction, c.isDigit = true) (d : LocalDateTime)
    (o : Offset) :
    ((partsOf d fraction o).digits ++ (partsOf d fraction o).fraction ++
      (((partsOf d fraction o).offset.map (·.2)).getD [])).all Char.isDigit = true := by
  have padded (width n : Nat) : (Digits.padded width n).all Char.isDigit = true :=
    List.all_eq_true.2 fun _ hc => Digits.isDigit_of_mem_padded hc
  have offset : (((partsOf d fraction o).offset.map (·.2)).getD []).all Char.isDigit = true := by
    unfold partsOf
    split
    · rfl
    · rw [Option.map_some, Option.getD_some, List.all_append, padded, padded, Bool.and_self]
  have fields : (fieldsOf d).all Char.isDigit = true := by
    simp only [fieldsOf, List.all_append, padded, Bool.and_self]
  rw [List.all_append, List.all_append, offset, Bool.and_true]
  exact Bool.and_eq_true_iff.2 ⟨fields, List.all_eq_true.2 digits⟩

/-- The capitals of a written time are its text. -/
theorem toList_upperAscii_textAt (t : OffsetDateTime) (p : Precision) :
    (Text.upperAscii (t.textAt p)).toList = (t.textAt p).toList := by
  rw [Text.upperAscii, String.toList_map]
  calc (t.textAt p).toList.map Char.toUpper = (t.textAt p).toList.map id :=
        List.map_congr_left fun c hc => toUpper_of_isWritten (t.isWritten_textAt p c hc)
    _ = (t.textAt p).toList := List.map_id _

/-- The six fields of the digits of a date and time stand for its numbers. -/
theorem value_fieldsOf (d : LocalDateTime) :
    Digits.value ((fieldsOf d).take 4) = d.date.year ∧
      Digits.value (((fieldsOf d).drop 4).take 2) = d.date.month ∧
      Digits.value (((fieldsOf d).drop 6).take 2) = d.date.day ∧
      Digits.value (((fieldsOf d).drop 8).take 2) = d.time.hour ∧
      Digits.value (((fieldsOf d).drop 10).take 2) = d.time.minute ∧
      Digits.value (((fieldsOf d).drop 12).take 2) = d.time.second := by
  have year : (Digits.padded 4 d.date.year).length = 4 := Digits.length_padded (by decide) d.date.year_lt
  have month : (Digits.padded 2 d.date.month).length = 2 := Digits.length_padded (by decide) d.date.month_lt
  have day : (Digits.padded 2 d.date.day).length = 2 := Digits.length_padded (by decide) d.date.day_lt
  have hour : (Digits.padded 2 d.time.hour).length = 2 := Digits.length_padded (by decide) d.time.hour_lt_width
  have minute : (Digits.padded 2 d.time.minute).length = 2 :=
    Digits.length_padded (by decide) d.time.minute_lt_width
  have second : (Digits.padded 2 d.time.second).length = 2 :=
    Digits.length_padded (by decide) d.time.second_lt_width
  -- Each field is dropped before the next one is taken.
  have drop4 (k : Nat) := Digits.drop_field year k
  have drop6 (k : Nat) (rest : List Char) := (drop4 (2 + k) _).trans (Digits.drop_field month k rest)
  have drop8 (k : Nat) (rest : List Char) := (drop6 (2 + k) _).trans (Digits.drop_field day k rest)
  have drop10 (k : Nat) (rest : List Char) := (drop8 (2 + k) _).trans (Digits.drop_field hour k rest)
  have drop12 (k : Nat) (rest : List Char) := (drop10 (2 + k) _).trans (Digits.drop_field minute k rest)
  refine ⟨?_, ?_, ?_, ?_, ?_, ?_⟩
  · rw [fieldsOf, List.take_left' year, Digits.value_padded]
  · rw [fieldsOf, drop4 0, List.drop_zero, List.take_left' month, Digits.value_padded]
  · rw [fieldsOf, drop6 0, List.drop_zero, List.take_left' day, Digits.value_padded]
  · rw [fieldsOf, drop8 0, List.drop_zero, List.take_left' hour, Digits.value_padded]
  · rw [fieldsOf, drop10 0, List.drop_zero, List.take_left' minute, Digits.value_padded]
  · rw [fieldsOf, drop12 0, List.drop_zero, List.take_of_length_le (Nat.le_of_eq second), Digits.value_padded]

section

variable {t : OffsetDateTime} {p : Precision}

/-- The parts of a text with seconds, if its offset has none. -/
theorem match?_textAt (seconds : p.ShowsSeconds) :
    match? (Text.upperAscii (t.textAt p)).toList =
      if t.offset.IsWholeMinutes then some (partsOf t.clock (t.clock.time.fractionAt p) t.offset) else none := by
  rw [toList_upperAscii_textAt, OffsetDateTime.toList_textAt, TimeOfDay.chars_eq _ seconds, List.append_assoc,
    match?_written _ _ fun _ hc => TimeOfDay.isDigit_of_mem_fractionAt hc]

/-- A written time is read as what was written of it. -/
theorem read_textAt (whole : t.offset.IsWholeMinutes) (seconds : p.ShowsSeconds) :
    read (t.textAt p) = .ok ⟨⟨t.clock.date, t.clock.time.cut p⟩, t.offset, .fixed t.offset.name?⟩ := by
  have form := (match?_textAt (t := t) seconds).trans (if_pos whole)
  have digits : ∀ c ∈ t.clock.time.fractionAt p, c.isDigit = true :=
    fun _ hc => TimeOfDay.isDigit_of_mem_fractionAt hc
  have fields : (partsOf t.clock (t.clock.time.fractionAt p) t.offset).digits = fieldsOf t.clock := rfl
  obtain ⟨year, month, day, hour, minute, second⟩ := value_fieldsOf t.clock
  have micro : micros (partsOf t.clock (t.clock.time.fractionAt p) t.offset).fraction = (t.clock.time.cut p).micro :=
    micros_fractionAt t.clock.time p
  have time : TimeOfDay.make t.clock.time.hour t.clock.time.minute t.clock.time.second (t.clock.time.cut p).micro =
      .ok (t.clock.time.cut p) := (t.clock.time.cut p).make_self
  unfold read
  simp only [form]
  rw [if_pos (isDigit_partsOf digits t.clock t.offset), fields, List.drop_zero, year, month, day, hour, minute,
    second, micro, readOffset_partsOf whole, zoneName_partsOf whole, Date.make_self, time]
  rfl

/-- With seconds in its offset it is not read. -/
theorem read_textAt_of_not_isWholeMinutes (broken : ¬ t.offset.IsWholeMinutes) (seconds : p.ShowsSeconds) :
    read (t.textAt p) = .error .notTimestamp := by
  have form := (match?_textAt (t := t) seconds).trans (if_neg broken)
  simp only [read, form]

/-- Nor without the seconds of the time. -/
theorem read_textAt_of_not_showsSeconds (coarse : ¬ p.ShowsSeconds) : read (t.textAt p) = .error .notTimestamp := by
  have form := match?_textAt_of_not_showsSeconds t coarse
  rw [← toList_upperAscii_textAt] at form
  simp only [read, form]

/-- A written time is read as itself, up to the name of its offset. -/
theorem read_text (whole : t.offset.IsWholeMinutes) : read t.text = .ok t.named := by
  rw [OffsetDateTime.text, read_textAt whole ⟨by decide, by decide⟩, TimeOfDay.cut_of_unit_eq_one rfl]
  rfl

end

/-- The offset of a number of minutes is a whole number of minutes. -/
theorem isWholeMinutes_make {minutes : Int} {o : Offset} (h : Offset.make (minutes * microsPerMinute) = .ok o) :
    o.IsWholeMinutes := by
  unfold Offset.make at h
  split at h
  · cases h
    exact Int.mul_emod_left minutes microsPerMinute
  · cases h

/-- Offsets are read in minutes. -/
theorem readOffset_isWholeMinutes {parts : Option (Char × List Char)} {o : Offset} (h : readOffset parts = .ok o) :
    o.IsWholeMinutes := by
  cases parts with
  | none =>
    cases h
    rfl
  | some part => exact isWholeMinutes_make h

/-- Every time that is read has a fixed offset of whole minutes. -/
theorem isFixed_of_read {text : String} {t : OffsetDateTime} (h : read text = .ok t) :
    t.IsFixed ∧ t.offset.IsWholeMinutes := by
  unfold read at h
  dsimp only at h
  split at h
  · cases h
  · split at h
    · obtain ⟨offset, written, h⟩ := Outcome.bind_eq_ok.1 h
      obtain ⟨date, -, h⟩ := Outcome.bind_eq_ok.1 h
      obtain ⟨time, -, same⟩ := Outcome.bind_eq_ok.1 h
      cases same
      exact ⟨⟨_, rfl⟩, readOffset_isWholeMinutes written⟩
    · cases h

end Timestamp

end CatalogFilter
