import CatalogFilter.Calendar.Timestamp
import CatalogFilter.Proofs.Calendar.Date

/-!
# The texts of times

* `TimeOfDay.chars_eq` — a time is written to the second, and then its fraction as far as the precision goes.
* `TimeOfDay.cut` — the part of a time that is written.
* `Offset.chars_eq` — sign, hours and minutes of an offset, and its seconds where it is no whole number of minutes.
* `Offset.zone` — the end of a written timestamp: a `Z` for offset zero, else the offset.
* `OffsetDateTime.toList_textAt` — a date, a time and a zone from left to right.
* `OffsetDateTime.named` — a time as it comes back from its text, which names its offset.
* `OffsetDateTime.getLast?_textAt` — a text ends in `Z` exactly for offset zero.
-/

namespace CatalogFilter

/-! ## Times of day -/

namespace Precision

/-- Whether seconds are written at a precision. -/
def ShowsSeconds (p : Precision) : Prop :=
  p ≠ .hours ∧ p ≠ .minutes

instance (p : Precision) : Decidable p.ShowsSeconds :=
  inferInstanceAs (Decidable (_ ∧ _))

/-- The microseconds that the last digit of a second counts at a precision. -/
def unit : Precision → Nat
  | .auto | .microseconds => 1
  | .milliseconds => 1000
  | _ => 1000000

end Precision

namespace TimeOfDay

/-- A time without what is finer than a precision, down to the seconds. -/
def cut (t : TimeOfDay) (p : Precision) : TimeOfDay :=
  { t with
    micro := t.micro / p.unit * p.unit
    micro_lt := Nat.lt_of_le_of_lt (Nat.div_mul_le_self t.micro p.unit) t.micro_lt }

/-- Where microseconds are written, nothing is finer. -/
theorem cut_of_unit_eq_one {t : TimeOfDay} {p : Precision} (fine : p.unit = 1) : t.cut p = t := by
  simp [cut, fine]

/-- Hours fill two digits. -/
theorem hour_lt_width (t : TimeOfDay) : t.hour < 10 ^ 2 := by
  have := t.hour_lt
  omega

/-- Minutes fill two digits. -/
theorem minute_lt_width (t : TimeOfDay) : t.minute < 10 ^ 2 := by
  have := t.minute_lt
  omega

/-- Seconds fill two digits. -/
theorem second_lt_width (t : TimeOfDay) : t.second < 10 ^ 2 := by
  have := t.second_lt
  omega

/-- Microseconds fill six digits. -/
theorem micro_lt_width (t : TimeOfDay) : t.micro < 10 ^ 6 :=
  t.micro_lt

/-- Milliseconds fill three digits. -/
theorem milli_lt_width (t : TimeOfDay) : t.micro / 1000 < 10 ^ 3 := by
  have := t.micro_lt
  omega

/-- The digits of the fraction of a second, as they are written at full length; none for a whole second. -/
def fraction (t : TimeOfDay) : List Char :=
  if t.micro = 0 then [] else Digits.padded 6 t.micro

/-- The digits of the fraction of a second that are written at a precision. -/
def fractionAt (t : TimeOfDay) : Precision → List Char
  | .auto => t.fraction
  | .milliseconds => Digits.padded 3 (t.micro / 1000)
  | .microseconds => Digits.padded 6 t.micro
  | _ => []

/-- A fraction consists of digits. -/
theorem isDigit_of_mem_fraction {t : TimeOfDay} {c : Char} (h : c ∈ t.fraction) : c.isDigit = true := by
  unfold fraction at h
  split at h
  · exact absurd h List.not_mem_nil
  · exact Digits.isDigit_of_mem_padded h

/-- So does what is written of it. -/
theorem isDigit_of_mem_fractionAt {t : TimeOfDay} {p : Precision} {c : Char} (h : c ∈ t.fractionAt p) :
    c.isDigit = true := by
  cases p with
  | auto => exact isDigit_of_mem_fraction h
  | milliseconds => exact Digits.isDigit_of_mem_padded h
  | microseconds => exact Digits.isDigit_of_mem_padded h
  | _ => exact absurd h List.not_mem_nil

/-- The fields of a time to the second, from left to right. -/
theorem chars_seconds (t : TimeOfDay) :
    t.chars .seconds = Digits.padded 2 t.hour ++
      ':' :: (Digits.padded 2 t.minute ++ ':' :: Digits.padded 2 t.second) := by
  simp only [chars, List.append_assoc, List.cons_append]

end TimeOfDay

/-- A fraction behind its point; nothing where there is none. -/
def pointed (ds : List Char) : List Char :=
  if ds = [] then [] else '.' :: ds

theorem pointed_padded {width n : Nat} (pos : 0 < width) (h : n < 10 ^ width) :
    pointed (Digits.padded width n) = '.' :: Digits.padded width n := by
  have full : (Digits.padded width n).length = width := Digits.length_padded pos h
  exact if_neg (List.ne_nil_of_length_pos (by omega))

/-- A time is written to the second, and then its fraction as far as the precision goes. -/
theorem TimeOfDay.chars_eq (t : TimeOfDay) {p : Precision} (seconds : p.ShowsSeconds) :
    t.chars p = t.chars .seconds ++ pointed (t.fractionAt p) := by
  cases p with
  | auto =>
    by_cases whole : t.micro = 0
    · simp [chars, fractionAt, fraction, pointed, whole]
    · simp [chars, fractionAt, fraction, whole, pointed_padded (by decide) t.micro_lt_width]
  | milliseconds => simp [chars, fractionAt, pointed_padded (by decide) t.milli_lt_width]
  | microseconds => simp [chars, fractionAt, pointed_padded (by decide) t.micro_lt_width]
  | seconds => simp [fractionAt, pointed]
  | hours => exact absurd rfl seconds.1
  | minutes => exact absurd rfl seconds.2

/-! ## Offsets -/

namespace Offset

/-- The sign of an offset. -/
def sign (o : Offset) : Char :=
  if o.micros < 0 then '-' else '+'

/-- The hours of an offset without its sign. -/
def hours (o : Offset) : Nat :=
  o.micros.natAbs / 1000000 / 3600

/-- The minutes of an offset that are left beside its hours. -/
def minutes (o : Offset) : Nat :=
  o.micros.natAbs / 1000000 / 60 % 60

/-- The seconds of an offset beside its hours and minutes. -/
def seconds (o : Offset) : Nat :=
  o.micros.natAbs / 1000000 % 60

/-- The microseconds of an offset beside its seconds. -/
def micro (o : Offset) : Nat :=
  o.micros.natAbs % 1000000

/-- What is written of an offset behind its minutes: nothing, or seconds with their fraction. -/
def rest (o : Offset) : List Char :=
  if o.seconds = 0 ∧ o.micro = 0 then []
  else ':' :: (Digits.padded 2 o.seconds ++ if o.micro = 0 then [] else '.' :: Digits.padded 6 o.micro)

/-- The end of a written timestamp. -/
def zone (o : Offset) : List Char :=
  if o.micros = 0 then ['Z'] else o.chars

/-- The name of an offset in a text; `Z` names none. -/
def name? (o : Offset) : Option String :=
  if o.micros = 0 then none else some (String.ofList o.chars)

theorem sign_eq (o : Offset) : o.sign = '+' ∨ o.sign = '-' := by
  unfold sign
  split
  · exact .inr rfl
  · exact .inl rfl

/-- Hours fill two digits. -/
theorem hours_lt (o : Offset) : o.hours < 10 ^ 2 := by
  have := o.within
  unfold microsPerDay at this
  unfold hours
  omega

/-- Minutes fill two digits. -/
theorem minutes_lt (o : Offset) : o.minutes < 10 ^ 2 := by
  unfold minutes
  omega

/-- Seconds fill two digits. -/
theorem seconds_lt (o : Offset) : o.seconds < 10 ^ 2 := by
  unfold seconds
  omega

/-- The written form from left to right. -/
theorem chars_eq (o : Offset) :
    o.chars = o.sign :: (Digits.padded 2 o.hours ++ ':' :: (Digits.padded 2 o.minutes ++ o.rest)) := by
  have unfolded : o.chars = if o.seconds = 0 ∧ o.micro = 0 then
        o.sign :: (Digits.padded 2 o.hours ++ ':' :: Digits.padded 2 o.minutes)
      else if o.micro = 0 then
        o.sign :: (Digits.padded 2 o.hours ++ ':' :: Digits.padded 2 o.minutes ++ ':' :: Digits.padded 2 o.seconds)
      else
        o.sign :: (Digits.padded 2 o.hours ++ ':' :: Digits.padded 2 o.minutes ++
          ':' :: Digits.padded 2 o.seconds ++ '.' :: Digits.padded 6 o.micro) := rfl
  rw [unfolded, rest]
  by_cases whole : o.seconds = 0 ∧ o.micro = 0
  · rw [if_pos whole, if_pos whole, List.append_nil]
  · by_cases pointless : o.micro = 0
    · rw [if_neg whole, if_neg whole, if_pos pointless, if_pos pointless]
      simp
    · rw [if_neg whole, if_neg whole, if_neg pointless, if_neg pointless]
      simp

/-- Nothing is written behind the minutes of whole ones. -/
theorem rest_of_isWholeMinutes {o : Offset} (whole : o.IsWholeMinutes) : o.rest = [] := by
  refine if_pos ?_
  unfold IsWholeMinutes microsPerMinute at whole
  unfold seconds micro
  omega

/-- Seconds are written of any other offset. -/
theorem exists_rest_eq_cons {o : Offset} (broken : ¬ o.IsWholeMinutes) : ∃ cs, o.rest = ':' :: cs := by
  refine ⟨_, if_neg ?_⟩
  unfold IsWholeMinutes microsPerMinute at broken
  unfold seconds micro
  omega

/-- Sign, hours and minutes stand for an offset of whole minutes. -/
theorem micros_of_isWholeMinutes {o : Offset} (whole : o.IsWholeMinutes) :
    (if o.sign = '-' then -((o.hours * 60 + o.minutes : Nat) : Int) else (o.hours * 60 + o.minutes : Nat)) *
      microsPerMinute = o.micros := by
  unfold IsWholeMinutes microsPerMinute at whole
  unfold sign hours minutes microsPerMinute
  by_cases negative : o.micros < 0
  · simp only [negative, if_true]
    omega
  · simp only [negative, if_false]
    rw [if_neg (by decide)]
    omega

/-- An offset within its bounds is accepted. -/
theorem make_micros (o : Offset) : make o.micros = .ok o := by
  rw [make, dif_pos o.within]

/-- A zone begins with its letter or its sign. -/
theorem exists_zone_eq_cons (o : Offset) : ∃ c rest, o.zone = c :: rest ∧ c ∈ ['Z', '+', '-'] := by
  unfold zone
  split
  · exact ⟨'Z', [], rfl, by decide⟩
  · refine ⟨o.sign, _, o.chars_eq, ?_⟩
    rcases o.sign_eq with h | h <;> rw [h] <;> decide

end Offset

/-! ## Whole texts -/

namespace OffsetDateTime

/-- A time as it comes back from its text, which names the offset and no region. -/
def named (t : OffsetDateTime) : OffsetDateTime :=
  { t with zone := .fixed t.offset.name? }

/-- Half a second past noon of a leap day. -/
def leapNoon (offset : Offset) (zone : Zone) : OffsetDateTime :=
  ⟨⟨⟨2024, 2, 29, by decide⟩, ⟨12, 0, 0, 500000, by decide, by decide, by decide, by decide⟩⟩, offset, zone⟩

/-- A time is written as date, time and zone. -/
theorem toList_textAt (t : OffsetDateTime) (p : Precision) :
    (t.textAt p).toList = t.clock.date.chars ++ 'T' :: (t.clock.time.chars p ++ t.offset.zone) := by
  rw [textAt, String.toList_ofList]
  unfold Offset.zone
  split <;> simp only [OffsetDateTime.chars, LocalDateTime.chars, List.append_assoc, List.cons_append]

theorem toList_text (t : OffsetDateTime) :
    t.text.toList = t.clock.date.chars ++
      'T' :: (t.clock.time.chars .seconds ++ (pointed t.clock.time.fraction ++ t.offset.zone)) := by
  rw [text, toList_textAt, TimeOfDay.chars_eq _ ⟨by decide, by decide⟩, List.append_assoc]
  rfl

end OffsetDateTime

/-! ## Characters -/

namespace Offset

/-- What is written of an offset behind its sign. -/
def figures (o : Offset) : List Char :=
  Digits.padded 2 o.hours ++ ':' :: (Digits.padded 2 o.minutes ++ o.rest)

/-- Behind the sign stand digits, colons and a point. -/
theorem mem_figures {o : Offset} {c : Char} (h : c ∈ o.figures) : c.isDigit = true ∨ c = ':' ∨ c = '.' := by
  have digit {width n : Nat} (h : c ∈ Digits.padded width n) : c.isDigit = true ∨ c = ':' ∨ c = '.' :=
    .inl (Digits.isDigit_of_mem_padded h)
  have colon : ':'.isDigit = true ∨ ':' = ':' ∨ ':' = '.' := .inr (.inl rfl)
  have rest (h : c ∈ o.rest) : c.isDigit = true ∨ c = ':' ∨ c = '.' := by
    unfold Offset.rest at h
    split at h
    · exact absurd h List.not_mem_nil
    · rw [List.mem_cons, List.mem_append] at h
      rcases h with rfl | h | h
      · exact colon
      · exact digit h
      · split at h
        · exact absurd h List.not_mem_nil
        · rcases List.mem_cons.1 h with rfl | h
          · exact .inr (.inr rfl)
          · exact digit h
  rw [figures, List.mem_append, List.mem_cons, List.mem_append] at h
  rcases h with h | rfl | h | h
  · exact digit h
  · exact colon
  · exact digit h
  · exact rest h

/-- A sign or a letter is not among them. -/
theorem not_mem_figures {o : Offset} {c : Char} (h : c ∈ ['Z', '+', '-']) : c ∉ o.figures := by
  intro figure
  simp only [List.mem_cons, List.not_mem_nil, or_false] at h
  rcases h with rfl | rfl | rfl <;> exact absurd (mem_figures figure) (by decide)

end Offset

namespace Timestamp

/-- The characters that written timestamps consist of. -/
def IsWritten (c : Char) : Prop :=
  c.isDigit = true ∨ c ∈ ['-', 'T', ':', '.', '+', 'Z']

end Timestamp

open Timestamp

/-- The time of day at any precision has no other character. -/
theorem TimeOfDay.isWritten_chars {t : TimeOfDay} {p : Precision} {c : Char} (h : c ∈ t.chars p) : IsWritten c := by
  have digit {width n : Nat} (h : c ∈ Digits.padded width n) : IsWritten c := .inl (Digits.isDigit_of_mem_padded h)
  have mark (h : c = ':' ∨ c = '.') : IsWritten c := by
    rcases h with rfl | rfl <;> exact .inr (by decide)
  have hours (h : c ∈ t.chars .hours) : IsWritten c := digit h
  have minutes (h : c ∈ t.chars .minutes) : IsWritten c := by
    rcases List.mem_append.1 h with h | h
    · exact hours h
    · rcases List.mem_cons.1 h with h | h
      · exact mark (.inl h)
      · exact digit h
  have seconds (h : c ∈ t.chars .seconds) : IsWritten c := by
    rcases List.mem_append.1 h with h | h
    · exact minutes h
    · rcases List.mem_cons.1 h with h | h
      · exact mark (.inl h)
      · exact digit h
  by_cases shown : p.ShowsSeconds
  · rw [chars_eq t shown, List.mem_append] at h
    rcases h with h | h
    · exact seconds h
    · unfold pointed at h
      split at h
      · exact absurd h List.not_mem_nil
      · rcases List.mem_cons.1 h with h | h
        · exact mark (.inr h)
        · exact .inl (isDigit_of_mem_fractionAt h)
  · cases p with
    | hours => exact hours h
    | minutes => exact minutes h
    | _ => exact absurd ⟨by decide, by decide⟩ shown

/-- Nor has the zone. -/
theorem Offset.isWritten_zone {o : Offset} {c : Char} (h : c ∈ o.zone) : IsWritten c := by
  unfold zone at h
  split at h
  · rw [List.mem_singleton.1 h]
    exact .inr (by decide)
  · rw [chars_eq] at h
    rcases List.mem_cons.1 h with h | h
    · rw [h]
      rcases o.sign_eq with sign | sign <;> rw [sign] <;> exact .inr (by decide)
    · rcases mem_figures h with digit | rfl | rfl
      · exact .inl digit
      · exact .inr (by decide)
      · exact .inr (by decide)

namespace OffsetDateTime

variable (t : OffsetDateTime) (p : Precision)

/-- A written timestamp has no other character. -/
theorem isWritten_textAt : ∀ c ∈ (t.textAt p).toList, IsWritten c := by
  intro c h
  rw [toList_textAt, List.mem_append, List.mem_cons, List.mem_append] at h
  rcases h with h | rfl | h | h
  · rcases Date.mem_chars h with digit | rfl
    · exact .inl digit
    · exact .inr (by decide)
  · exact .inr (by decide)
  · exact TimeOfDay.isWritten_chars h
  · exact Offset.isWritten_zone h

/-- A text ends in `Z` exactly for offset zero. -/
theorem getLast?_textAt : (t.textAt p).toList.getLast? = some 'Z' ↔ t.offset.micros = 0 := by
  have written : (t.textAt p).toList = t.clock.chars 'T' p ++ t.offset.zone := by
    rw [toList_textAt, LocalDateTime.chars, List.append_assoc, List.cons_append]
  have zone : t.offset.zone ≠ [] := by
    obtain ⟨c, rest, zone, -⟩ := t.offset.exists_zone_eq_cons
    rw [zone]
    exact List.cons_ne_nil c rest
  have last : (t.textAt p).toList.getLast? = t.offset.zone.getLast? := by
    rw [written, List.getLast?_append, List.getLast?_eq_some_getLast zone, Option.some_or]
  rw [last]
  constructor
  · intro last
    refine Decidable.byContradiction fun away => ?_
    rw [Offset.zone, if_neg away, Offset.chars_eq] at last
    rcases List.mem_cons.1 (List.mem_of_getLast? last) with sign | figure
    · rcases t.offset.sign_eq with h | h <;> rw [h] at sign <;> exact absurd sign (by decide)
    · exact Offset.not_mem_figures (by decide) figure
  · intro utc
    rw [Offset.zone, if_pos utc]
    rfl

end OffsetDateTime

end CatalogFilter
