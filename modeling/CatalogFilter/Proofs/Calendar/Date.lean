import CatalogFilter.Calendar.Date
import CatalogFilter.Proofs.Number.Digits

/-!
# Written dates

* `Date.chars_eq` — the three fields of a written date, each with its full width.
* `Date.read_text` — a written date is read as itself.
-/

namespace CatalogFilter.Date

/-! ## Fields -/

/-- A year fills four digits. -/
theorem year_lt (d : Date) : d.year < 10 ^ 4 := by
  have := d.valid.2.1
  omega

/-- A month fills two digits. -/
theorem month_lt (d : Date) : d.month < 10 ^ 2 := by
  have := d.valid.2.2.2.1
  omega

/-- No month has more than 31 days. -/
theorem daysInMonth_le (year month : Nat) : daysInMonth year month ≤ 31 := by
  unfold daysInMonth
  split
  · split <;> decide
  all_goals decide

/-- A day fills two digits. -/
theorem day_lt (d : Date) : d.day < 10 ^ 2 := by
  have := d.valid.2.2.2.2.2
  have := daysInMonth_le d.year d.month
  omega

/-- The written form from left to right. -/
theorem chars_eq (d : Date) :
    d.chars = Digits.padded 4 d.year ++ '-' :: (Digits.padded 2 d.month ++ '-' :: Digits.padded 2 d.day) := by
  rw [chars, List.append_assoc, List.cons_append]

/-- The places of a date take the fields of a written one. -/
theorem take_chars (digit : Char → Bool) (accepts : ∀ c, c.isDigit = true → digit c = true) (d : Date)
    (shape text : List Char) :
    Digits.take digit ("0000-00-00".toList ++ shape) (d.chars ++ text) =
      (Digits.take digit shape text).map fun p =>
        (Digits.padded 4 d.year ++ (Digits.padded 2 d.month ++ (Digits.padded 2 d.day ++ p.1)), p.2) := by
  have places : "0000-00-00".toList ++ shape =
      List.replicate 4 '0' ++ '-' :: (List.replicate 2 '0' ++ '-' :: (List.replicate 2 '0' ++ shape)) := rfl
  rw [places, chars_eq, List.append_assoc, List.cons_append, List.append_assoc, List.cons_append,
    Digits.take_padded accepts (by decide) d.year_lt, Digits.take_cons_mark (by decide),
    Digits.take_padded accepts (by decide) d.month_lt, Digits.take_cons_mark (by decide),
    Digits.take_padded accepts (by decide) d.day_lt, Option.map_map, Option.map_map]
  rfl

/-! ## Reading back -/

/-- A written date has ten characters. -/
theorem length_chars (d : Date) : d.chars.length = 10 := by
  rw [chars_eq, List.length_append, List.length_cons, List.length_append, List.length_cons,
    Digits.length_padded (by decide) d.year_lt, Digits.length_padded (by decide) d.month_lt,
    Digits.length_padded (by decide) d.day_lt]

/-- A written date has only digits and hyphens. -/
theorem mem_chars {d : Date} {c : Char} (h : c ∈ d.chars) : c.isDigit = true ∨ c = '-' := by
  rw [chars_eq, List.mem_append, List.mem_cons, List.mem_append, List.mem_cons] at h
  rcases h with h | h | h | h | h
  · exact .inl (Digits.isDigit_of_mem_padded h)
  · exact .inr h
  · exact .inl (Digits.isDigit_of_mem_padded h)
  · exact .inr h
  · exact .inl (Digits.isDigit_of_mem_padded h)

/-- Digits are ASCII. -/
theorem toNat_lt_of_isDigit {c : Char} (h : c.isDigit = true) : c.toNat < 128 := by
  have range := Digits.toNat_of_isDigit h
  omega

@[simp] theorem toList_text (d : Date) : d.text.toList = d.chars :=
  String.toList_ofList

/-- A written date is read as itself. -/
theorem read_text (d : Date) : read d.text = .ok d := by
  have year : (Digits.padded 4 d.year).length = 4 := Digits.length_padded (by decide) d.year_lt
  have month : (Digits.padded 2 d.month).length = 2 := Digits.length_padded (by decide) d.month_lt
  have ascii : (d.chars.any fun c => decide (128 ≤ c.toNat)) = false := by
    rw [List.any_eq_false]
    intro c hc
    rw [decide_eq_true_eq, Nat.not_le]
    rcases mem_chars hc with h | rfl
    · exact toNat_lt_of_isDigit h
    · decide
  have hyphen : d.chars[4]? = some '-' := by
    rw [chars_eq, List.getElem?_append_right (by omega), year]
    rfl
  have noWeek : d.chars[5]? ≠ some 'W' := by
    rw [chars_eq, List.getElem?_append_right (by omega), year, List.getElem?_cons_succ,
      List.getElem?_append_left (by omega)]
    intro h
    exact absurd (Digits.isDigit_of_mem_padded (List.mem_of_getElem? h)) (by decide)
  have fields : Digits.take Char.isDigit "0000-00-00".toList d.chars =
      some (Digits.padded 4 d.year ++ (Digits.padded 2 d.month ++ Digits.padded 2 d.day), []) := by
    simpa using take_chars Char.isDigit (fun _ h => h) d [] []
  have dropYear : (Digits.padded 4 d.year ++ (Digits.padded 2 d.month ++ Digits.padded 2 d.day)).drop 6 =
      Digits.padded 2 d.day := by
    rw [← List.append_assoc]
    exact List.drop_left' (by rw [List.length_append, year, month])
  have shape : read d.text = readDay d.text "0000-00-00".toList := by
    simp only [read, toList_text, ascii, hyphen, if_neg noWeek, Bool.false_eq_true, if_false, if_true]
  rw [shape, readDay, toList_text, fields]
  simp only [List.take_left' year, List.drop_left' year, List.take_left' month, dropYear,
    Digits.value_padded, make_self]

end CatalogFilter.Date
