import CatalogFilter.Json.Writer
import CatalogFilter.Proofs.Number.Digits
import CatalogFilter.Proofs.Number.Shortest
import CatalogFilter.Proofs.Text.Runs

/-!
# Numerals

* `Numeral` — whole part, fraction and exponent of a number without its sign, as its characters show them.
* `Numeral.readMagnitude_chars` — a numeral is read as the number that it stands for, part by part, when the text does
  not go on with a character that could belong to it.
-/

namespace CatalogFilter.Json

/-! ## Numerals -/

/-- A numeral without its sign: a whole part, the digits of a fraction if there is one, and sign and digits of an
exponent if there is one. -/
structure Numeral where
  whole : List Char
  fraction : List Char
  power : Option (Bool × List Char)
  /-- The whole part is a zero, or digits that do not begin with one. -/
  whole_digits : whole = ['0'] ∨ whole ≠ [] ∧ whole.head? ≠ some '0' ∧ ∀ c ∈ whole, c.isDigit = true
  fraction_digits : ∀ c ∈ fraction, c.isDigit = true
  power_digits : ∀ p, power = some p → p.2 ≠ [] ∧ ∀ c ∈ p.2, c.isDigit = true

namespace Numeral

/-- The fraction part: a point and digits. -/
def fractionChars (n : Numeral) : List Char :=
  if n.fraction = [] then [] else '.' :: n.fraction

/-- The exponent part: a mark, a sign and digits. -/
def powerChars (n : Numeral) : List Char :=
  match n.power with
  | none => []
  | some (negative, ds) => 'e' :: (if negative then '-' else '+') :: ds

/-- The characters of a numeral. -/
def chars (n : Numeral) : List Char :=
  n.whole ++ (n.fractionChars ++ n.powerChars)

/-- The exponent of a numeral. -/
def exponent? (n : Numeral) : Option ℤ :=
  n.power.map fun (negative, ds) => if negative then -(Digits.value ds : ℤ) else Digits.value ds

/-- All digits of a numeral as one number. -/
def digits (n : Numeral) : ℕ :=
  Digits.value (n.whole ++ n.fraction)

/-- The exponent that goes with all digits. -/
def scale (n : Numeral) : ℤ :=
  n.exponent?.getD 0 - n.fraction.length

/-- Whether a text cannot go on a numeral. -/
def Ends (rest : List Char) : Prop :=
  Text.Stops (fun c => c.isDigit || c == '.' || c == 'e' || c == 'E') rest

variable {n : Numeral} {rest : List Char}

theorem Ends.stops_digit (h : Ends rest) : Text.Stops Char.isDigit rest := by
  intro c hc
  have none := h c hc
  simp only [Bool.or_eq_false_iff] at none
  exact none.1.1.1

theorem stops_of_ne {c : Char} (h : c.isDigit = false) : Text.Stops Char.isDigit (c :: rest) :=
  Text.stops_cons.2 h

/-- Behind the whole part comes no digit. -/
theorem stops_fractionChars (h : Ends rest) : Text.Stops Char.isDigit (n.fractionChars ++ (n.powerChars ++ rest)) := by
  unfold fractionChars powerChars
  split
  · split
    · exact h.stops_digit
    · exact stops_of_ne rfl
  · exact stops_of_ne rfl

/-- Behind the fraction comes no digit. -/
theorem stops_powerChars (h : Ends rest) : Text.Stops Char.isDigit (n.powerChars ++ rest) := by
  unfold powerChars
  split
  · exact h.stops_digit
  · exact stops_of_ne rfl

theorem isDigit_whole (n : Numeral) : ∀ c ∈ n.whole, c.isDigit = true := by
  rcases n.whole_digits with zero | ⟨-, -, digits⟩
  · rw [zero]
    intro c hc
    rw [List.mem_singleton.1 hc]
    rfl
  · exact digits

theorem whole_ne_nil (n : Numeral) : n.whole ≠ [] := by
  rcases n.whole_digits with zero | ⟨nonempty, -⟩
  · rw [zero]
    exact nofun
  · exact nonempty

/-- The whole part is read up to the first character that is no digit. -/
theorem readWhole_chars (h : Ends rest) :
    readWhole (n.chars ++ rest) = some (n.whole, n.fractionChars ++ (n.powerChars ++ rest)) := by
  have stop := stops_fractionChars (n := n) h
  rw [chars, List.append_assoc, List.append_assoc]
  generalize n.fractionChars ++ (n.powerChars ++ rest) = more at *
  rcases n.whole_digits with zero | ⟨nonempty, noZero, digits⟩
  · rw [zero]
    rfl
  · have taken := Text.takeWhile_run digits stop
    have left := Text.dropWhile_run digits stop
    cases first : n.whole with
    | nil => exact absurd first nonempty
    | cons c cs =>
      rw [first] at noZero taken left
      have other : c ≠ '0' := fun same => noZero (by rw [same]; rfl)
      unfold readWhole
      split
      · rename_i same
        exact absurd (List.cons.inj same).1 other
      · rw [taken, left]
        exact if_neg nofun

theorem Ends.ne_cons (h : Ends rest) {c : Char} (refused : (c.isDigit || c == '.' || c == 'e' || c == 'E') = true)
    (cs : List Char) : rest ≠ c :: cs := by
  rintro rfl
  rw [Ends, Text.stops_cons, refused] at h
  cases h

/-- Behind a whole part without a fraction stands no point. -/
theorem powerChars_ne_point (h : Ends rest) (cs : List Char) : n.powerChars ++ rest ≠ '.' :: cs := by
  unfold powerChars
  split
  · exact h.ne_cons rfl cs
  · simp

/-- A fraction is read behind its point, and none where there is no point. -/
theorem readFraction_chars (h : Ends rest) :
    readFraction (n.fractionChars ++ (n.powerChars ++ rest)) = some (n.fraction, n.powerChars ++ rest) := by
  have stop := stops_powerChars (n := n) h
  have noPoint := powerChars_ne_point (n := n) h
  generalize n.powerChars ++ rest = more at *
  by_cases whole : n.fraction = []
  · rw [fractionChars, if_pos whole, whole, List.nil_append]
    unfold readFraction
    split
    · exact absurd rfl (noPoint _)
    · rfl
  · rw [fractionChars, if_neg whole, List.cons_append, readFraction, Text.takeWhile_run n.fraction_digits stop,
      Text.dropWhile_run n.fraction_digits stop]
    exact if_neg whole

/-- The digits of an exponent are read behind its sign. -/
theorem readPower_digits (negative : Bool) {ds : List Char} (nonempty : ds ≠ [])
    (digits : ∀ c ∈ ds, c.isDigit = true) (h : Ends rest) :
    readPower negative (ds ++ rest) =
      some (some (if negative then -(Digits.value ds : ℤ) else Digits.value ds), rest) := by
  rw [readPower, Text.takeWhile_run digits h.stops_digit, Text.dropWhile_run digits h.stops_digit]
  exact if_neg nonempty

/-- An exponent is read behind its mark, and none where there is no mark. -/
theorem readExponent_chars (h : Ends rest) : readExponent (n.powerChars ++ rest) = some (n.exponent?, rest) := by
  unfold powerChars exponent?
  cases power : n.power with
  | none =>
    cases rest with
    | nil => rfl
    | cons c cs =>
      have noMark : ¬ (c = 'e' ∨ c = 'E') := by
        rintro (rfl | rfl)
        · exact h.ne_cons rfl cs rfl
        · exact h.ne_cons rfl cs rfl
      exact if_neg noMark
  | some p =>
    obtain ⟨negative, ds⟩ := p
    obtain ⟨nonempty, digits⟩ := n.power_digits _ power
    cases negative with
    | false => exact readPower_digits false nonempty digits h
    | true => exact readPower_digits true nonempty digits h

/-- The number that a numeral stands for. -/
def number? (r : Rules) (negative : Bool) (n : Numeral) : Option Number :=
  if n.fraction = [] ∧ n.exponent? = none then integer r negative (Digits.value n.whole)
  else finiteOnly r (.ofDecimal negative n.digits n.scale)

/-- A numeral is read as the number that it stands for, up to a character that cannot go on it. -/
theorem readMagnitude_chars (r : Rules) (negative : Bool) (n : Numeral) (h : Ends rest) :
    readMagnitude r negative (n.chars ++ rest) = (n.number? r negative).map fun m => (m, rest) := by
  unfold readMagnitude number?
  rw [readWhole_chars h]
  simp only [Option.bind_eq_bind, Option.bind_some, readFraction_chars h, readExponent_chars h]
  split
  · cases integer r negative (Digits.value n.whole) <;> rfl
  · rw [digits, scale]
    cases finiteOnly r _ <;> rfl

end Numeral

end CatalogFilter.Json
