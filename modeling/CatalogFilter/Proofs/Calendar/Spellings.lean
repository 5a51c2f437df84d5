import CatalogFilter.Proofs.Calendar.Weeks

/-!
# Texts that are read as dates

* `Date.IsSpelledOtherwise` — the texts of ten characters that are read as a date and are not its written form: the day of a
  week, and the forms without hyphens, behind which two characters are left over.
* `Date.readFields_eq_ok` — a text is read against a layout of three numbers exactly when it consists of these numbers.
* `Date.read_eq_ok` — a text of ten characters is read as a date exactly when it is the written form of the date or spells it
  otherwise.

Written dates have ten characters, but to ask for ten characters is not to ask for written dates.
-/

namespace CatalogFilter.Date

/-! ## Spellings -/

/-- A text of ten characters is read as a date that is not written so. -/
inductive IsSpelledOtherwise (d : Date) : List Char → Prop where
  /-- Year, week and weekday with hyphens. -/
  | week {year week weekday : Nat} (day : d.IsWeekDay year week weekday) :
      IsSpelledOtherwise d
        (Digits.padded 4 year ++ '-' :: 'W' :: (Digits.padded 2 week ++ '-' :: Digits.padded 1 weekday))
  /-- Year, month and day without hyphens, and two more characters. -/
  | unseparated {a b : Char} (ascii : a.toNat < 128 ∧ b.toNat < 128) :
      IsSpelledOtherwise d
        (Digits.padded 4 d.year ++ (Digits.padded 2 d.month ++ (Digits.padded 2 d.day ++ [a, b])))
  /-- Year, week and weekday without hyphens, and two more characters. -/
  | unseparatedWeek {year week weekday : Nat} {a b : Char} (day : d.IsWeekDay year week weekday)
      (ascii : a.toNat < 128 ∧ b.toNat < 128) :
      IsSpelledOtherwise d
        (Digits.padded 4 year ++ 'W' :: (Digits.padded 2 week ++ (Digits.padded 1 weekday ++ [a, b])))

/-! ## Layouts of three numbers -/

section

variable {first second text : List Char} {width : Nat} {fault : CalendarFault}
  {f : Nat → Nat → Nat → Except CalendarFault Date} {d : Date}

/-- The shape of three numbers, of four, two and `width` digits, with marks between them. -/
def layout (first second : List Char) (width : Nat) : List Char :=
  List.replicate 4 '0' ++ (first ++ (List.replicate 2 '0' ++ (second ++ (List.replicate width '0' ++ []))))

/-- The length of a text that begins with three numbers that fill their places. -/
theorem length_fields (first second : List Char) {x y z : Nat} (pos : 0 < width)
    (fits : x < 10 ^ 4 ∧ y < 10 ^ 2 ∧ z < 10 ^ width) (rest : List Char) :
    (Digits.padded 4 x ++ (first ++ (Digits.padded 2 y ++ (second ++ (Digits.padded width z ++ rest))))).length =
      6 + first.length + second.length + width + rest.length := by
  have xLength := Digits.length_padded (by decide) fits.1
  have yLength := Digits.length_padded (by decide) fits.2.1
  have zLength := Digits.length_padded pos fits.2.2
  simp only [List.length_append, xLength, yLength, zLength]
  omega

/-- A layout takes the digits of its three numbers. -/
theorem take_layout_eq_some (firstMarks : '0' ∉ first) (secondMarks : '0' ∉ second) {ds : List Char}
    (rest : List Char) :
    Digits.take Char.isDigit (layout first second width) text = some (ds, rest) ↔
      ∃ xs ys zs, (xs.length = 4 ∧ ∀ c ∈ xs, c.isDigit = true) ∧ (ys.length = 2 ∧ ∀ c ∈ ys, c.isDigit = true) ∧
        (zs.length = width ∧ ∀ c ∈ zs, c.isDigit = true) ∧ ds = xs ++ (ys ++ zs) ∧
        text = xs ++ (first ++ (ys ++ (second ++ (zs ++ rest)))) := by
  unfold layout
  rw [Digits.take_places_eq_some]
  simp only [Digits.take_marks_eq_some firstMarks, Digits.take_marks_eq_some secondMarks, Digits.take_places_eq_some,
    Digits.take_nil]
  constructor
  · rintro ⟨xs, _, _, xsLength, xsDigits, rfl, ⟨_, rfl, ys, _, _, ysLength, ysDigits, rfl, ⟨_, rfl, zs, _, _, zsLength,
      zsDigits, rfl, ⟨⟩, rfl⟩, rfl⟩, same⟩
    rw [List.append_nil, Prod.mk.injEq] at same
    obtain ⟨rfl, rfl⟩ := same
    exact ⟨xs, ys, zs, ⟨xsLength, xsDigits⟩, ⟨ysLength, ysDigits⟩, ⟨zsLength, zsDigits⟩, rfl, rfl⟩
  · rintro ⟨xs, ys, zs, ⟨xsLength, xsDigits⟩, ⟨ysLength, ysDigits⟩, ⟨zsLength, zsDigits⟩, rfl, rfl⟩
    exact ⟨xs, _, _, xsLength, xsDigits, rfl, ⟨_, rfl, ys, _, _, ysLength, ysDigits, rfl, ⟨_, rfl, zs, _, _, zsLength,
      zsDigits, rfl, rfl, rfl⟩, rfl⟩, by rw [List.append_nil]⟩

/-- Three numbers are read by a layout exactly from a text that consists of them; what is behind them does not count. -/
theorem readFields_eq_ok (firstMarks : '0' ∉ first) (secondMarks : '0' ∉ second) (pos : 0 < width) :
    (match Digits.take Char.isDigit (layout first second width) text with
      | some (ds, _) => f (Digits.value (ds.take 4)) (Digits.value ((ds.drop 4).take 2)) (Digits.value (ds.drop 6))
      | none => .error fault) = .ok d ↔
      ∃ x y z rest, (x < 10 ^ 4 ∧ y < 10 ^ 2 ∧ z < 10 ^ width) ∧
        text = Digits.padded 4 x ++ (first ++ (Digits.padded 2 y ++ (second ++ (Digits.padded width z ++ rest)))) ∧
        f x y z = .ok d := by
  have fields {xs ys : List Char} (zs : List Char) (xsLength : xs.length = 4) (ysLength : ys.length = 2) :
      (xs ++ (ys ++ zs)).take 4 = xs ∧ ((xs ++ (ys ++ zs)).drop 4).take 2 = ys ∧ (xs ++ (ys ++ zs)).drop 6 = zs := by
    refine ⟨List.take_left' xsLength, ?_, ?_⟩
    · rw [List.drop_left' xsLength, List.take_left' ysLength]
    · rw [Digits.drop_field xsLength 2, List.drop_left' ysLength]
  constructor
  · intro h
    split at h
    · rename_i ds rest taken
      obtain ⟨xs, ys, zs, ⟨xsLength, xsDigits⟩, ⟨ysLength, ysDigits⟩, ⟨zsLength, zsDigits⟩, rfl, rfl⟩ :=
        (take_layout_eq_some firstMarks secondMarks rest).1 taken
      obtain ⟨takeX, takeY, dropZ⟩ := fields zs xsLength ysLength
      rw [takeX, takeY, dropZ] at h
      refine ⟨Digits.value xs, Digits.value ys, Digits.value zs, rest, ⟨?_, ?_, ?_⟩, ?_, h⟩
      · exact xsLength ▸ Digits.value_lt xsDigits
      · exact ysLength ▸ Digits.value_lt ysDigits
      · exact zsLength ▸ Digits.value_lt zsDigits
      · rw [← xsLength, ← ysLength, ← zsLength, Digits.padded_value (by omega) xsDigits,
          Digits.padded_value (by omega) ysDigits, Digits.padded_value (by omega) zsDigits]
    · cases h
  · rintro ⟨x, y, z, rest, ⟨x_lt, y_lt, z_lt⟩, rfl, made⟩
    have xLength := Digits.length_padded (by decide) x_lt
    have yLength := Digits.length_padded (by decide) y_lt
    obtain ⟨takeX, takeY, dropZ⟩ := fields (Digits.padded width z) xLength yLength
    have taken := (take_layout_eq_some firstMarks secondMarks rest).2
      ⟨_, _, _, ⟨xLength, fun _ => Digits.isDigit_of_mem_padded⟩, ⟨yLength, fun _ => Digits.isDigit_of_mem_padded⟩,
        ⟨Digits.length_padded pos z_lt, fun _ => Digits.isDigit_of_mem_padded⟩, rfl, rfl⟩
    rw [taken]
    dsimp only
    rw [takeX, takeY, dropZ, Digits.value_padded, Digits.value_padded, Digits.value_padded]
    exact made

end

/-! ## Days and weeks -/

section

variable {text : String} {first second : List Char} {width : Nat} {d : Date}

/-- The numbers of a date fill their places. -/
theorem fields_lt (d : Date) : d.year < 10 ^ 4 ∧ d.month < 10 ^ 2 ∧ d.day < 10 ^ 2 :=
  ⟨d.year_lt, d.month_lt, d.day_lt⟩

/-- A text is read as a day exactly if it consists of the day's numbers. -/
theorem readDay_eq_ok (firstMarks : '0' ∉ first) (secondMarks : '0' ∉ second) :
    readDay text (layout first second 2) = .ok d ↔
      ∃ rest, text.toList = Digits.padded 4 d.year ++
        (first ++ (Digits.padded 2 d.month ++ (second ++ (Digits.padded 2 d.day ++ rest)))) := by
  refine (readFields_eq_ok firstMarks secondMarks (by decide)).trans ?_
  constructor
  · rintro ⟨x, y, z, rest, -, spelled, made⟩
    obtain ⟨rfl, rfl, rfl⟩ := make_eq_ok.1 made
    exact ⟨rest, spelled⟩
  · rintro ⟨rest, spelled⟩
    exact ⟨_, _, _, rest, d.fields_lt, spelled, make_self d⟩

/-- A day of a week has numbers that fill their fields. -/
theorem IsWeekDay.fields_lt {year week weekday : Nat} (h : d.IsWeekDay year week weekday) :
    year < 10 ^ 4 ∧ week < 10 ^ 2 ∧ weekday < 10 ^ 1 := by
  obtain ⟨-, le, t, -, -, rfl, rfl⟩ := h
  have range := t.dayOfYear_range
  have days : daysInYear t.year ≤ 366 := by
    unfold daysInYear
    split <;> decide
  exact ⟨t.year_lt, by omega, by omega⟩

/-- A text is read as a day of a week exactly if it consists of the numbers of year, week and weekday. -/
theorem readWeek_eq_ok (firstMarks : '0' ∉ first) (secondMarks : '0' ∉ second) :
    readWeek text (layout first second 1) = .ok d ↔
      ∃ year week weekday rest, d.IsWeekDay year week weekday ∧
        text.toList = Digits.padded 4 year ++
          (first ++ (Digits.padded 2 week ++ (second ++ (Digits.padded 1 weekday ++ rest)))) := by
  refine (readFields_eq_ok firstMarks secondMarks (by decide)).trans ?_
  constructor
  · rintro ⟨x, y, z, rest, ⟨x_lt, -⟩, spelled, made⟩
    exact ⟨x, y, z, rest, (ofWeek_eq_ok (by omega)).1 made, spelled⟩
  · rintro ⟨year, week, weekday, rest, day, spelled⟩
    have fits := day.fields_lt
    exact ⟨year, week, weekday, rest, fits, spelled, (ofWeek_eq_ok (by omega)).2 day⟩

end

/-! ## Dates -/

section

variable {d : Date} {cs : List Char}

/-- A digit is none of the marks. -/
theorem ne_of_isDigit {c mark : Char} (digit : c.isDigit = true) (noDigit : mark.isDigit = false) : c ≠ mark := by
  rintro rfl
  rw [digit] at noDigit
  cases noDigit

/-- What stands behind the four digits of a year. -/
theorem behind_year {x : Nat} (fits : x < 10 ^ 4) (rest : List Char) :
    (Digits.padded 4 x ++ rest)[4]? = rest[0]? ∧ (Digits.padded 4 x ++ rest)[5]? = rest[1]? := by
  have year := Digits.length_padded (by decide) fits
  rw [List.getElem?_append_right (by omega), List.getElem?_append_right (by omega), year]
  exact ⟨rfl, rfl⟩

/-- A field begins with a digit. -/
theorem exists_digit_of_padded {width n : Nat} (pos : 0 < width) (fits : n < 10 ^ width) (rest : List Char) :
    ∃ c, (Digits.padded width n ++ rest)[0]? = some c ∧ c.isDigit = true := by
  have length := Digits.length_padded pos fits
  cases field : Digits.padded width n with
  | nil =>
    rw [field] at length
    exact absurd length (Nat.ne_of_lt pos)
  | cons c cs => exact ⟨c, rfl, Digits.isDigit_of_mem_padded (field ▸ List.mem_cons_self)⟩

/-- A text that spells a date otherwise has ten characters. -/
theorem IsSpelledOtherwise.length (h : d.IsSpelledOtherwise cs) : cs.length = 10 := by
  cases h with
  | week day =>
    rw [← List.append_nil (Digits.padded 1 _)]
    exact length_fields ['-', 'W'] ['-'] (by decide) day.fields_lt []
  | unseparated => exact length_fields [] [] (by decide) d.fields_lt _
  | unseparatedWeek day => exact length_fields ['W'] [] (by decide) day.fields_lt _

/-- And all of them are ASCII. -/
theorem IsSpelledOtherwise.ascii (h : d.IsSpelledOtherwise cs) : ∀ c ∈ cs, c.toNat < 128 := by
  have field {width n : Nat} : ∀ c ∈ Digits.padded width n, c.toNat < 128 := fun c member =>
    toNat_lt_of_isDigit (Digits.isDigit_of_mem_padded member)
  cases h with
  | week =>
    simp only [List.forall_mem_append, List.forall_mem_cons]
    exact ⟨field, by decide, by decide, field, by decide, field⟩
  | unseparated ascii =>
    simp only [List.forall_mem_append, List.forall_mem_cons]
    exact ⟨field, field, field, ascii.1, ascii.2, nofun⟩
  | unseparatedWeek _ ascii =>
    simp only [List.forall_mem_append, List.forall_mem_cons]
    exact ⟨field, by decide, field, field, ascii.1, ascii.2, nofun⟩

/-- A written date has a hyphen behind its year, and behind that a digit. -/
theorem marks_chars (d : Date) : d.chars[4]? = some '-' ∧ d.chars[5]? ≠ some 'W' := by
  obtain ⟨c, first, digit⟩ := exists_digit_of_padded (by decide) d.month_lt ('-' :: Digits.padded 2 d.day)
  obtain ⟨fourth, fifth⟩ := behind_year d.year_lt ('-' :: (Digits.padded 2 d.month ++ '-' :: Digits.padded 2 d.day))
  rw [chars_eq, fourth, fifth, List.getElem?_cons_succ, first, ne_eq, Option.some_inj]
  exact ⟨rfl, ne_of_isDigit digit (by decide)⟩

/-- What a text that spells a date otherwise has behind the year: a week mark, behind a hyphen or not, or a digit. -/
theorem IsSpelledOtherwise.marks (h : d.IsSpelledOtherwise cs) :
    cs[4]? = some '-' ∧ cs[5]? = some 'W' ∨ cs[4]? ≠ some '-' := by
  cases h with
  | week week =>
    obtain ⟨fourth, fifth⟩ := behind_year week.fields_lt.1 _
    exact .inl ⟨fourth, fifth⟩
  | unseparated =>
    obtain ⟨c, first, digit⟩ := exists_digit_of_padded (by decide) d.month_lt _
    rw [(behind_year d.year_lt _).1, first, ne_eq, Option.some_inj]
    exact .inr (ne_of_isDigit digit (by decide))
  | unseparatedWeek week =>
    rw [(behind_year week.fields_lt.1 _).1, List.getElem?_cons_zero]
    exact .inr (by decide)

/-- No written date spells a date otherwise. -/
theorem IsSpelledOtherwise.ne_chars (h : d.IsSpelledOtherwise cs) (e : Date) : cs ≠ e.chars := by
  rintro rfl
  rcases h.marks with ⟨-, week⟩ | noHyphen
  · exact e.marks_chars.2 week
  · exact noHyphen e.marks_chars.1

end

section

variable {d : Date} {text : String}

/-- A text of ASCII characters is read by what is behind the year. -/
theorem read_of_ascii (ascii : ∀ c ∈ text.toList, c.toNat < 128) :
    read text =
      if text.toList[4]? = some '-' then
        if text.toList[5]? = some 'W' then readWeek text (layout ['-', 'W'] ['-'] 1)
        else readDay text (layout ['-'] ['-'] 2)
      else if text.toList[4]? = some 'W' then readWeek text (layout ['W'] [] 1)
      else readDay text (layout [] [] 2) := by
  have allAscii : (text.toList.any fun c => decide (128 ≤ c.toNat)) = false := by
    simpa only [List.any_eq_false, decide_eq_true_eq, Nat.not_le] using ascii
  unfold read
  dsimp only
  rw [allAscii]
  rfl

/-- No other text is read. -/
theorem ascii_of_read (h : read text = .ok d) : ∀ c ∈ text.toList, c.toNat < 128 := by
  intro c member
  by_contra foreign
  have anyForeign : (text.toList.any fun c => decide (128 ≤ c.toNat)) = true :=
    List.any_eq_true.2 ⟨c, member, decide_eq_true (Nat.le_of_not_lt foreign)⟩
  unfold read at h
  dsimp only at h
  rw [anyForeign] at h
  cases h

/-- A text that spells a date otherwise is read as the date. -/
theorem read_of_isSpelledOtherwise (h : d.IsSpelledOtherwise text.toList) : read text = .ok d := by
  rw [read_of_ascii h.ascii]
  generalize spelled : text.toList = cs at h
  rw [← spelled]
  cases h with
  | week day =>
    have marks : text.toList[4]? = some '-' ∧ text.toList[5]? = some 'W' := by
      rw [spelled]
      exact behind_year day.fields_lt.1 _
    rw [if_pos marks.1, if_pos marks.2, readWeek_eq_ok (by decide) (by decide)]
    exact ⟨_, _, _, [], day, by rw [spelled, List.append_nil]; rfl⟩
  | @unseparated a b ascii =>
    obtain ⟨c, first, digit⟩ :=
      exists_digit_of_padded (by decide) d.month_lt (Digits.padded 2 d.day ++ [a, b])
    have fourth := (behind_year d.year_lt _).1.trans first
    rw [← spelled] at fourth
    have noMark {mark : Char} (noDigit : mark.isDigit = false) : text.toList[4]? ≠ some mark := by
      rw [fourth, ne_eq, Option.some_inj]
      exact ne_of_isDigit digit noDigit
    rw [if_neg (noMark (by decide)), if_neg (noMark (by decide)), readDay_eq_ok (by decide) (by decide)]
    exact ⟨_, spelled⟩
  | unseparatedWeek day =>
    have mark : text.toList[4]? = some 'W' := by
      rw [spelled]
      exact (behind_year day.fields_lt.1 _).1
    rw [if_neg (by rw [mark]; decide), if_pos mark, readWeek_eq_ok (by decide) (by decide)]
    exact ⟨_, _, _, _, day, spelled⟩

/-- The two characters behind a form without hyphens. -/
theorem exists_pair {rest : List Char} (ascii : ∀ c ∈ rest, c.toNat < 128) (two : rest.length = 2) :
    ∃ a b, rest = [a, b] ∧ a.toNat < 128 ∧ b.toNat < 128 := by
  match rest, two with
  | [a, b], _ => exact ⟨a, b, rfl, ascii a (by simp), ascii b (by simp)⟩

/-- A text of ten characters is read as a date exactly when it is written so or spells the date otherwise. -/
theorem read_eq_ok (ten : text.length = 10) :
    read text = .ok d ↔ text = d.text ∨ d.IsSpelledOtherwise text.toList := by
  constructor
  · intro h
    have ascii := ascii_of_read h
    rw [← String.length_toList] at ten
    rw [read_of_ascii ascii] at h
    split at h
    · split at h
      · obtain ⟨year, week, weekday, rest, day, spelled⟩ := (readWeek_eq_ok (by decide) (by decide)).1 h
        have counted := length_fields ['-', 'W'] ['-'] (by decide) day.fields_lt rest
        rw [← spelled, ten] at counted
        obtain rfl : rest = [] := List.length_eq_zero_iff.1 (Nat.add_left_cancel counted).symm
        rw [spelled, List.append_nil]
        exact .inr (.week day)
      · obtain ⟨rest, spelled⟩ := (readDay_eq_ok (by decide) (by decide)).1 h
        have counted := length_fields ['-'] ['-'] (by decide) d.fields_lt rest
        rw [← spelled, ten] at counted
        obtain rfl : rest = [] := List.length_eq_zero_iff.1 (Nat.add_left_cancel counted).symm
        rw [List.append_nil] at spelled
        exact .inl (String.toList_inj.1 (by rw [spelled, toList_text, chars_eq]; rfl))
    -- Two characters are left over behind the forms without hyphens.
    · split at h
      · obtain ⟨year, week, weekday, rest, day, spelled⟩ := (readWeek_eq_ok (by decide) (by decide)).1 h
        have counted := length_fields ['W'] [] (by decide) day.fields_lt rest
        rw [← spelled, ten] at counted
        rw [spelled] at ascii ⊢
        obtain ⟨a, b, rfl, pair⟩ := exists_pair (fun c member => ascii c (by simp [member])) (Nat.add_left_cancel counted).symm
        exact .inr (.unseparatedWeek day pair)
      · obtain ⟨rest, spelled⟩ := (readDay_eq_ok (by decide) (by decide)).1 h
        have counted := length_fields [] [] (by decide) d.fields_lt rest
        rw [← spelled, ten] at counted
        rw [spelled] at ascii ⊢
        obtain ⟨a, b, rfl, pair⟩ := exists_pair (fun c member => ascii c (by simp [member])) (Nat.add_left_cancel counted).symm
        exact .inr (.unseparated pair)
  · rintro (rfl | spelled)
    · exact d.read_text
    · exact read_of_isSpelledOtherwise spelled

end

end CatalogFilter.Date
