import CatalogFilter.Proofs.Json.Numeral

/-!
# Written numbers are read back

* `Numeral.Shows` — a numeral with a fraction or an exponent stands for a decimal.
* `Numeral.exists_decimal` — every layout writes a decimal as a numeral that shows it.
* `Numeral.exists_write`, `Numeral.exists_intText` — a finite binary number in any layout and an integer are written as
  numerals, which stand for them.
* `Number.text_append_inj` — the text of a finite number determines it.
-/

namespace CatalogFilter

namespace Json.Numeral

/-- The value of a numeral. -/
def value (n : Numeral) : ℚ :=
  n.digits * 10 ^ n.scale

/-- Whether a numeral has a fraction or an exponent, which make it a binary number, and stands for a decimal. -/
structure Shows (n : Numeral) (d : Decimal) : Prop where
  parts : n.fraction ≠ [] ∨ n.exponent? ≠ none
  digits_pos : 0 < n.digits
  value_eq : n.value = d.value

variable {d : Decimal}

/-- A numeral with a fraction or an exponent shows a decimal when its digits are those of the decimal, with zeros
around them that the exponent makes up for. -/
theorem shows_of_digits {n : Numeral} (h : 0 < d.digits) (parts : n.fraction ≠ [] ∨ n.exponent? ≠ none) (k : ℕ)
    (digits : n.digits = 10 ^ k * d.digits) (scale : n.scale = d.exponent - k) : n.Shows d := by
  have ten : (10 : ℚ) ≠ 0 := by norm_num
  refine ⟨parts, ?_, ?_⟩
  · rw [digits]
    positivity
  · rw [value, Decimal.value, digits, scale, zpow_sub₀ ten, zpow_natCast]
    push_cast
    field_simp

theorem isDigit_of_mem_zeros {k : ℕ} {c : Char} (h : c ∈ List.replicate k '0') : c.isDigit = true := by
  rw [List.eq_of_mem_replicate h]
  rfl

/-- A decimal is written out as a numeral that stands for it. -/
theorem exists_positional (h : 0 < d.digits) {e : ℤ}
    (he : e = d.exponent + (Nat.toDigits 10 d.digits).length - 1) :
    ∃ n : Numeral, Layout.positional (Nat.toDigits 10 d.digits) e = n.chars ∧ n.Shows d := by
  have digits : ∀ c ∈ Nat.toDigits 10 d.digits, c.isDigit = true := fun _ => Digits.isDigit_of_mem_toDigits
  have value := Digits.value_toDigits d.digits
  have nonempty := Digits.toDigits_ne_nil d.digits
  have noZero := Digits.head?_toDigits h
  generalize Nat.toDigits 10 d.digits = ds at *
  unfold Layout.positional
  cases e with
  | negSucc k =>
    have fraction : ∀ c ∈ List.replicate k '0' ++ ds, c.isDigit = true := fun c hc =>
      (List.mem_append.1 hc).elim isDigit_of_mem_zeros (digits c)
    have behind : List.replicate k '0' ++ ds ≠ [] := List.append_ne_nil_of_right_ne_nil _ nonempty
    refine ⟨⟨['0'], List.replicate k '0' ++ ds, none, .inl rfl, fraction, by simp⟩, ?_, ?_⟩
    · simp [chars, fractionChars, powerChars, nonempty]
    · refine shows_of_digits h (.inl behind) 0 ?_ ?_
      · have zeros := Digits.value_zeros_append (k + 1) ds
        rw [List.replicate_succ, List.cons_append, value] at zeros
        simpa [Numeral.digits] using zeros
      · simp only [scale, exponent?, Option.map_none, Option.getD_none, List.length_append, List.length_replicate]
        omega
  | ofNat k =>
    rw [Int.ofNat_eq_natCast] at he
    dsimp only
    split
    · rename_i short
      have whole : ∀ c ∈ ds ++ List.replicate (k + 1 - ds.length) '0', c.isDigit = true := fun c hc =>
        (List.mem_append.1 hc).elim (digits c) isDigit_of_mem_zeros
      have first : (ds ++ List.replicate (k + 1 - ds.length) '0').head? ≠ some '0' := by
        rwa [List.head?_append_of_ne_nil _ nonempty]
      refine ⟨⟨ds ++ List.replicate (k + 1 - ds.length) '0', ['0'], none, .inr ⟨?_, first, whole⟩, ?_, by simp⟩, ?_, ?_⟩
      · exact List.append_ne_nil_of_left_ne_nil nonempty _
      · simp
      · simp [chars, fractionChars, powerChars]
      · refine shows_of_digits h (.inl (List.cons_ne_nil _ _)) (k + 2 - ds.length) ?_ ?_
        · have zeros := Digits.value_append_zeros ds (k + 1 - ds.length + 1)
          rw [List.replicate_succ', ← List.append_assoc, value] at zeros
          rw [Numeral.digits, zeros]
          congr 2
          omega
        · simp only [scale, exponent?, Option.map_none, Option.getD_none, List.length_singleton]
          omega
    · rename_i long
      have taken : ds.take (k + 1) ≠ [] := by
        rw [ne_eq, List.take_eq_nil_iff]
        simp [nonempty]
      have first : (ds.take (k + 1)).head? ≠ some '0' := by
        rwa [List.head?_take, if_neg (by omega)]
      have left : ds.drop (k + 1) ≠ [] := by
        rw [ne_eq, List.drop_eq_nil_iff]
        exact long
      refine ⟨⟨ds.take (k + 1), ds.drop (k + 1), none, .inr ⟨taken, first, ?_⟩, ?_, by simp⟩, ?_, ?_⟩
      · exact fun c hc => digits c (List.mem_of_mem_take hc)
      · exact fun c hc => digits c (List.mem_of_mem_drop hc)
      · simp [chars, fractionChars, powerChars, left]
      · refine shows_of_digits h (.inl left) 0 ?_ ?_
        · rw [Numeral.digits, List.take_append_drop, value, pow_zero, one_mul]
        · simp only [scale, exponent?, Option.map_none, Option.getD_none, List.length_drop]
          omega

/-- The value of the digits behind the sign of an exponent. -/
theorem signed_padded (width : ℕ) (e : ℤ) :
    (if decide (e < 0) = true then -(Digits.value (Digits.padded width e.natAbs) : ℤ)
      else Digits.value (Digits.padded width e.natAbs)) = e := by
  rw [Digits.value_padded]
  split
  · rename_i negative
    have := of_decide_eq_true negative
    omega
  · rename_i positive
    have : ¬ e < 0 := fun h => positive (decide_eq_true h)
    omega

theorem padded_ne_nil (width n : ℕ) : Digits.padded width n ≠ [] :=
  List.append_ne_nil_of_right_ne_nil _ (Digits.toDigits_ne_nil n)

/-- A decimal is written with an exponent as a numeral that stands for it. -/
theorem exists_scientific (l : Layout) (h : 0 < d.digits) {e : ℤ}
    (he : e = d.exponent + (Nat.toDigits 10 d.digits).length - 1) :
    ∃ n : Numeral, l.scientific (Nat.toDigits 10 d.digits) e = n.chars ∧ n.Shows d := by
  have digits : ∀ c ∈ Nat.toDigits 10 d.digits, c.isDigit = true := fun _ => Digits.isDigit_of_mem_toDigits
  have value := Digits.value_toDigits d.digits
  have nonempty := Digits.toDigits_ne_nil d.digits
  have noZero := Digits.head?_toDigits h
  generalize Nat.toDigits 10 d.digits = ds at *
  cases ds with
  | nil => exact absurd rfl nonempty
  | cons c rest =>
    have whole : ∀ c' ∈ [c], c'.isDigit = true := fun c' hc => digits c' (by simp_all)
    have first : ([c] : List Char).head? ≠ some '0' := noZero
    have power : ∀ p, some (decide (e < 0), Digits.padded l.width e.natAbs) = some p →
        p.2 ≠ [] ∧ ∀ c ∈ p.2, c.isDigit = true := by
      rintro _ ⟨⟩
      exact ⟨padded_ne_nil _ _, fun _ => Digits.isDigit_of_mem_padded⟩
    refine ⟨⟨[c], rest, some (decide (e < 0), Digits.padded l.width e.natAbs), .inr ⟨List.cons_ne_nil _ _, first, whole⟩,
      fun c' hc => digits c' (List.mem_cons_of_mem _ hc), power⟩, ?_, ?_⟩
    · cases rest with
      | nil => simp [Layout.scientific, Layout.exponentPart, chars, fractionChars, powerChars]
      | cons c' rest => simp [Layout.scientific, Layout.exponentPart, chars, fractionChars, powerChars]
    · refine shows_of_digits h (.inr (Option.some_ne_none _)) 0 ?_ ?_
      · rw [Numeral.digits, pow_zero, one_mul, ← value]
        rfl
      · simp only [scale, exponent?, Option.map_some, Option.getD_some, signed_padded]
        rw [he, List.length_cons]
        omega

/-- Every layout writes a decimal as a numeral that stands for it. -/
theorem exists_decimal (l : Layout) (h : 0 < d.digits) : ∃ n : Numeral, l.decimal d = n.chars ∧ n.Shows d := by
  unfold Layout.decimal
  dsimp only
  split
  · exact exists_positional h rfl
  · exact exists_scientific l h rfl

end Json.Numeral

namespace Json

open Numeral

/-! ## Numbers with their signs -/

/-- A numeral behind its sign. -/
def signed (negative : Bool) (n : Numeral) : List Char :=
  if negative then '-' :: n.chars else n.chars

variable {r : Rules} {rest : List Char}

/-- A numeral with its sign is read as the number that it stands for. -/
theorem readNumber_signed (r : Rules) (negative : Bool) (n : Numeral) (h : Ends rest) :
    readNumber r (signed negative n ++ rest) = (n.number? r negative).map fun m => (m, rest) := by
  rw [← readMagnitude_chars r negative n h]
  cases negative with
  | true => rfl
  | false =>
    rw [signed, if_neg nofun]
    cases whole : n.whole with
    | nil => exact absurd whole n.whole_ne_nil
    | cons c cs =>
      have digit : c.isDigit = true := n.isDigit_whole c (by rw [whole]; exact List.mem_cons_self)
      rw [chars, whole]
      unfold readNumber
      split
      · rename_i same
        rw [(List.cons.inj same).1] at digit
        cases digit
      · rfl

/-- A finite binary number is written as a numeral that stands for it. -/
theorem exists_write (l : Layout) (negative : Bool) (exponent : Fin 2047) (fraction : Fin (2 ^ 52)) :
    ∃ n : Numeral, (l.write negative exponent fraction).toList = signed negative n ∧
      ∀ r, n.number? r negative = some (.float (.finite negative exponent fraction)) := by
  unfold Layout.write
  dsimp only
  rw [String.toList_ofList]
  have finite (r : Rules) : finiteOnly r (.finite negative exponent fraction) =
      some (.float (.finite negative exponent fraction)) := if_pos (by simp [Binary64.isFinite])
  by_cases zero : Binary64.significand exponent fraction = 0
  · rw [if_pos zero]
    have fields : exponent = 0 ∧ fraction = 0 := by
      unfold Binary64.significand at zero
      split at zero
      · rename_i field
        exact ⟨Fin.ext field, Fin.ext zero⟩
      · omega
    refine ⟨⟨['0'], ['0'], none, .inl rfl, by simp, nofun⟩, rfl, fun r => ?_⟩
    rw [fields.1, fields.2] at finite ⊢
    exact finite r
  · rw [if_neg zero]
    have pos := Nat.pos_of_ne_zero zero
    obtain ⟨contains, digits⟩ := Neighbourhood.shortest_ofFields pos
    obtain ⟨n, written, parts, nonzero, value⟩ := exists_decimal l digits
    refine ⟨n, by rw [written]; rfl, fun r => ?_⟩
    rw [← value] at contains
    rw [number?, if_neg (by tauto), Binary64.ofDecimal_of_contains pos nonzero contains negative]
    exact finite r

/-- An integer is written as a numeral. -/
theorem exists_intText (i : ℤ) :
    ∃ n : Numeral, (Number.intText i).toList = signed (decide (i < 0)) n ∧
      ∀ r : Rules, (r.narrow = true → fits64 i = true) → n.number? r (decide (i < 0)) = some (.int i) := by
  have whole : Nat.toDigits 10 i.natAbs = ['0'] ∨ Nat.toDigits 10 i.natAbs ≠ [] ∧
      (Nat.toDigits 10 i.natAbs).head? ≠ some '0' ∧ ∀ c ∈ Nat.toDigits 10 i.natAbs, c.isDigit = true := by
    by_cases zero : i.natAbs = 0
    · exact .inl (by rw [zero]; rfl)
    · exact .inr ⟨Digits.toDigits_ne_nil _, Digits.head?_toDigits (Nat.pos_of_ne_zero zero),
        fun _ => Digits.isDigit_of_mem_toDigits⟩
  refine ⟨⟨Nat.toDigits 10 i.natAbs, [], none, whole, by simp, nofun⟩, ?_, fun r fits => ?_⟩
  · simp [Number.intText, signed, chars, fractionChars, powerChars]
  · have value : (if decide (i < 0) = true then -(i.natAbs : ℤ) else i.natAbs) = i := by
      split
      · rename_i negative
        have := of_decide_eq_true negative
        omega
      · rename_i positive
        have : ¬ i < 0 := fun h => positive (decide_eq_true h)
        omega
    rw [number?, if_pos ⟨rfl, rfl⟩, integer, Digits.value_toDigits, value, if_neg]
    simpa using fits

/-! ## The characters of numbers -/

/-- Whether a character may stand in a number. -/
def isNumberChar (c : Char) : Bool :=
  c.isDigit || c == '.' || c == 'e' || c == '-' || c == '+'

theorem isNumberChar_of_isDigit {c : Char} (h : c.isDigit = true) : isNumberChar c = true := by
  simp [isNumberChar, h]

/-- A numeral with its sign consists of characters of numbers. -/
theorem isNumberChar_of_mem_signed {negative : Bool} {n : Numeral} {c : Char} (h : c ∈ signed negative n) :
    isNumberChar c = true := by
  have numeral : c ∈ n.chars → isNumberChar c = true := by
    intro h
    rw [chars, List.mem_append, List.mem_append] at h
    rcases h with whole | fraction | power
    · exact isNumberChar_of_isDigit (n.isDigit_whole c whole)
    · unfold fractionChars at fraction
      split at fraction
      · cases fraction
      · rcases List.mem_cons.1 fraction with rfl | digit
        · rfl
        · exact isNumberChar_of_isDigit (n.fraction_digits c digit)
    · unfold powerChars at power
      split at power
      · cases power
      · rename_i down ds found
        simp only [List.mem_cons] at power
        rcases power with rfl | sign | digit
        · rfl
        · rw [sign]
          cases down <;> rfl
        · exact isNumberChar_of_isDigit ((n.power_digits _ found).2 c digit)
  unfold signed at h
  split at h
  · rcases List.mem_cons.1 h with rfl | h
    · rfl
    · exact numeral h
  · exact numeral h

/-- A numeral begins with its sign or a digit. -/
theorem exists_signed_eq_cons (negative : Bool) (n : Numeral) :
    ∃ c cs, signed negative n = c :: cs ∧ (c.isDigit = true ∨ c = '-') := by
  cases negative with
  | true => exact ⟨'-', n.chars, rfl, .inr rfl⟩
  | false =>
    obtain ⟨c, cs, whole⟩ := List.exists_cons_of_ne_nil n.whole_ne_nil
    have digit : c.isDigit = true := n.isDigit_whole c (by rw [whole]; exact List.mem_cons_self)
    refine ⟨c, cs ++ (n.fractionChars ++ n.powerChars), ?_, .inl digit⟩
    rw [signed, if_neg nofun, chars, whole, List.cons_append]

end Json

/-! ## Texts of numbers -/

namespace Number

open Json

/-- Whether a number is an integer or a finite binary number. -/
def IsFinite : Number → Prop
  | .int _ => True
  | .float x => x.isFinite = true

instance : DecidablePred IsFinite
  | .int _ => inferInstanceAs (Decidable True)
  | .float x => inferInstanceAs (Decidable (x.isFinite = true))

/-- The text of a finite number is a numeral with its sign, which stands for the number. -/
theorem exists_text {m : Number} (finite : m.IsFinite) :
    ∃ negative n, m.text.toList = signed negative n ∧ Numeral.number? .lenient negative n = some m := by
  cases m with
  | int i =>
    obtain ⟨n, written, stands⟩ := exists_intText i
    exact ⟨_, n, written, stands _ nofun⟩
  | float x =>
    cases x with
    | finite negative exponent fraction =>
      obtain ⟨n, written, stands⟩ := exists_write .plain negative exponent fraction
      exact ⟨negative, n, written, stands _⟩
    | nan => cases finite
    | infinite negative => cases finite

/-- The text of a finite number begins with a minus sign or a digit, and consists of characters of numbers. -/
theorem exists_text_eq_cons {m : Number} (finite : m.IsFinite) :
    ∃ c cs, m.text.toList = c :: cs ∧ (c.isDigit = true ∨ c = '-') ∧ ∀ d ∈ c :: cs, isNumberChar d = true := by
  obtain ⟨negative, n, written, -⟩ := exists_text finite
  obtain ⟨c, cs, begins, first⟩ := exists_signed_eq_cons negative n
  refine ⟨c, cs, by rw [written, begins], first, fun d h => ?_⟩
  rw [← begins] at h
  exact isNumberChar_of_mem_signed h

variable {m n : Number} {rest rest' : List Char}

/-- The text of a finite number determines the number and where it ends. -/
theorem text_append_inj (hm : m.IsFinite) (hn : n.IsFinite) (ends : Numeral.Ends rest) (ends' : Numeral.Ends rest')
    (same : m.text.toList ++ rest = n.text.toList ++ rest') : m = n ∧ rest = rest' := by
  obtain ⟨s, a, writtenM, standsM⟩ := exists_text hm
  obtain ⟨t, b, writtenN, standsN⟩ := exists_text hn
  have readM := readNumber_signed .lenient s a ends
  have readN := readNumber_signed .lenient t b ends'
  rw [← writtenM, same, standsM] at readM
  rw [← writtenN, standsN, readM] at readN
  simpa using readN

end Number

end CatalogFilter
