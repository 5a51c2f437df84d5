import CatalogFilter.Number.Digits
import Mathlib.Data.List.Induction

/-!
# Laws of numbers of fixed width

* `Digits.value_padded` — a padded number stands for the number that was padded.
* `Digits.length_padded` — it fills its width when the number is below that power of ten.
* `Digits.value_toDigits`, `Digits.head?_toDigits` — the digits of a number stand for it, and do not begin with a
  zero unless it is zero.
* `Digits.take_places` — a run of places in a shape takes a run of digits of that length, and leaves the
  rest of the text to the rest of the shape.
* `Digits.take_places_eq_some`, `Digits.take_marks_eq_some` — nothing else is taken by places and by marks.
* `Digits.padded_value` — digits are the number that they stand for, padded to their count.

Together they read back what `Digits.padded` has written, one field of a date or time after the other.
-/

namespace CatalogFilter.Digits

/-! ## Padded numbers -/

/-- `Digits.value` is the positional value of the standard library. -/
theorem value_eq_ofDigitChars (ds : List Char) : value ds = Nat.ofDigitChars 10 ds 0 := by
  rw [Nat.ofDigitChars_eq_foldl]
  rfl

/-- Leading zeros do not count. -/
@[simp] theorem value_padded (width n : Nat) : value (padded width n) = n := by
  rw [value_eq_ofDigitChars, padded, Nat.ofDigitChars_append, Nat.ofDigitChars_replicate_zero, Nat.mul_zero,
    Nat.ofDigitChars_ten_toDigits]

/-- A padded number consists of digits. -/
theorem isDigit_of_mem_padded {width n : Nat} {c : Char} (h : c ∈ padded width n) : c.isDigit = true := by
  rw [padded, List.mem_append] at h
  rcases h with h | h
  · rw [List.eq_of_mem_replicate h]
    rfl
  · exact Nat.isDigit_of_mem_toDigits (by decide) (by decide) h

/-- A number below `10 ^ width` is padded to `width` digits. -/
theorem length_padded {width n : Nat} (pos : 0 < width) (h : n < 10 ^ width) :
    (padded width n).length = width := by
  have fits : (Nat.toDigits 10 n).length ≤ width := (Nat.length_toDigits_le_iff (by decide) pos).2 h
  rw [padded, List.length_append, List.length_replicate]
  exact Nat.sub_add_cancel fits

/-- Numbers that fill the same width are told by their padded digits, whatever stands behind them. -/
theorem padded_append_inj {width m n : Nat} (pos : 0 < width) (hm : m < 10 ^ width) (hn : n < 10 ^ width)
    {rest rest' : List Char} (same : padded width m ++ rest = padded width n ++ rest') : m = n ∧ rest = rest' := by
  have lengths : (padded width m).length = (padded width n).length := by
    rw [length_padded pos hm, length_padded pos hn]
  obtain ⟨fields, rests⟩ := List.append_inj same lengths
  have values := congrArg value fields
  rw [value_padded, value_padded] at values
  exact ⟨values, rests⟩

/-! ## Digits as a number -/

/-- A digit behind others counts once, and the others ten times. -/
theorem value_append_singleton (ds : List Char) (d : Char) : value (ds ++ [d]) = 10 * value ds + (d.toNat - 48) := by
  rw [value, List.foldl_append]
  rfl

/-- A digit is one of ten characters. -/
theorem toNat_of_isDigit {c : Char} (h : c.isDigit = true) : 48 ≤ c.toNat ∧ c.toNat ≤ 57 := by
  simp only [Char.isDigit, Bool.and_eq_true, decide_eq_true_eq, UInt32.le_iff_toNat_le] at h
  exact h

/-- So many digits stand for a number below that power of ten. -/
theorem value_lt {ds : List Char} (digits : ∀ c ∈ ds, c.isDigit = true) : value ds < 10 ^ ds.length := by
  induction ds using List.reverseRecOn with
  | nil => decide
  | append_singleton ds d ih =>
    have front := ih fun c h => digits c (List.mem_append_left [d] h)
    have last := toNat_of_isDigit (digits d (by simp))
    rw [value_append_singleton, List.length_append, List.length_singleton, Nat.pow_succ]
    omega

/-- Digits of one count that stand for one number are the same digits. -/
theorem value_inj {ds es : List Char} (length : ds.length = es.length) (digits : ∀ c ∈ ds, c.isDigit = true)
    (others : ∀ c ∈ es, c.isDigit = true) (same : value ds = value es) : ds = es := by
  induction ds using List.reverseRecOn generalizing es with
  | nil => exact (List.length_eq_zero_iff.1 length.symm).symm
  | append_singleton ds d ih =>
    rcases List.eq_nil_or_concat es with rfl | ⟨es, e, rfl⟩
    · simp at length
    · rw [List.concat_eq_append] at *
      simp only [List.length_append, List.length_singleton, Nat.add_right_cancel_iff] at length
      rw [value_append_singleton, value_append_singleton] at same
      have digit := toNat_of_isDigit (digits d (by simp))
      have other := toNat_of_isDigit (others e (by simp))
      have last : d = e := Char.toNat_inj.1 (by omega)
      have front : ds = es :=
        ih length (fun c h => digits c (by simp [h])) (fun c h => others c (by simp [h])) (by omega)
      rw [front, last]

/-- Digits are the number that they stand for, padded to their count. -/
theorem padded_value {ds : List Char} (notEmpty : 0 < ds.length) (digits : ∀ c ∈ ds, c.isDigit = true) :
    padded ds.length (value ds) = ds :=
  value_inj (length_padded notEmpty (value_lt digits)) (fun _ => isDigit_of_mem_padded) digits (value_padded _ _)

/-! ## Digits of a number -/

/-- Zeros in front of digits do not count. -/
theorem value_zeros_append (k : Nat) (ds : List Char) : value (List.replicate k '0' ++ ds) = value ds := by
  rw [value_eq_ofDigitChars, Nat.ofDigitChars_append, Nat.ofDigitChars_replicate_zero, Nat.mul_zero,
    value_eq_ofDigitChars]

/-- Each zero behind digits counts them ten times. -/
theorem value_append_zeros (ds : List Char) (k : Nat) : value (ds ++ List.replicate k '0') = 10 ^ k * value ds := by
  rw [value_eq_ofDigitChars, Nat.ofDigitChars_append, Nat.ofDigitChars_replicate_zero, value_eq_ofDigitChars]

@[simp] theorem value_toDigits (n : Nat) : value (Nat.toDigits 10 n) = n := by
  rw [value_eq_ofDigitChars, Nat.ofDigitChars_ten_toDigits]

theorem isDigit_of_mem_toDigits {n : Nat} {c : Char} (h : c ∈ Nat.toDigits 10 n) : c.isDigit = true :=
  Nat.isDigit_of_mem_toDigits (by decide) (by decide) h

theorem toDigits_ne_nil (n : Nat) : Nat.toDigits 10 n ≠ [] :=
  List.ne_nil_of_length_pos Nat.length_toDigits_pos

/-- The digits of a positive number do not begin with a zero. -/
theorem head?_toDigits {n : Nat} (h : 0 < n) : (Nat.toDigits 10 n).head? ≠ some '0' := by
  induction n using Nat.strongRecOn with
  | _ n ih =>
    rw [Nat.toDigits_eq_if (by decide)]
    split
    · rw [List.head?_cons, ne_eq, Option.some_inj, Nat.digitChar_eq_zero]
      omega
    · have first := List.head?_eq_some_head (toDigits_ne_nil (n / 10))
      rw [List.head?_append, first, Option.some_or, ← first]
      exact ih (n / 10) (by omega) (by omega)

/-! ## Shapes -/

/-- A mark that is not met ends the reading. -/
theorem take_cons_of_ne {digit : Char → Bool} {mark c : Char} (h : mark ≠ '0') (other : c ≠ mark)
    (shape text : List Char) : take digit (mark :: shape) (c :: text) = none := by
  simp [take, h, other]

/-- A run of places takes as many digits. -/
theorem take_places {digit : Char → Bool} {ds : List Char} (h : ∀ c ∈ ds, digit c = true)
    (shape text : List Char) :
    take digit (List.replicate ds.length '0' ++ shape) (ds ++ text) =
      (take digit shape text).map fun p => (ds ++ p.1, p.2) := by
  induction ds with
  | nil => simp
  | cons d ds ih =>
    have hd : digit d = true := h d List.mem_cons_self
    have hds : ∀ c ∈ ds, digit c = true := fun c hc => h c (List.mem_cons_of_mem d hc)
    rw [List.length_cons, List.replicate_succ, List.cons_append, List.cons_append, take_cons_digit hd,
      ih hds, Option.map_map]
    rfl

/-- Marks are passed over, and only by themselves. -/
theorem take_marks_eq_some {digit : Char → Bool} {marks shape text : List Char} {p : List Char × List Char}
    (noPlace : '0' ∉ marks) :
    take digit (marks ++ shape) text = some p ↔ ∃ rest, text = marks ++ rest ∧ take digit shape rest = some p := by
  induction marks generalizing text with
  | nil => simp
  | cons mark marks ih =>
    rw [List.mem_cons, not_or] at noPlace
    cases text with
    | nil =>
      refine ⟨nofun, ?_⟩
      rintro ⟨_, h, -⟩
      cases h
    | cons c text =>
      by_cases met : c = mark
      · subst met
        rw [List.cons_append, take_cons_mark (Ne.symm noPlace.1), ih noPlace.2]
        simp
      · rw [List.cons_append, take_cons_of_ne (Ne.symm noPlace.1) met]
        refine ⟨nofun, ?_⟩
        rintro ⟨_, h, -⟩
        cases h
        exact absurd rfl met

/-- A run of places takes a run of digits of that length, and nothing else. -/
theorem take_places_eq_some {digit : Char → Bool} {width : Nat} {shape text : List Char} {p : List Char × List Char} :
    take digit (List.replicate width '0' ++ shape) text = some p ↔
      ∃ field rest q, field.length = width ∧ (∀ c ∈ field, digit c = true) ∧ text = field ++ rest ∧
        take digit shape rest = some q ∧ p = (field ++ q.1, q.2) := by
  constructor
  · induction width generalizing text p with
    | zero => exact fun h => ⟨[], text, p, rfl, nofun, rfl, h, rfl⟩
    | succ width ih =>
      intro h
      cases text with
      | nil => cases h
      | cons c text =>
        rw [List.replicate_succ, List.cons_append, take, if_pos rfl] at h
        split at h
        · rename_i isDigit
          obtain ⟨others, taken, rfl⟩ := Option.map_eq_some_iff.1 h
          obtain ⟨field, rest, q, length, digits, rfl, left, rfl⟩ := ih taken
          exact ⟨c :: field, rest, q, congrArg (· + 1) length, List.forall_mem_cons.2 ⟨isDigit, digits⟩, rfl, left, rfl⟩
        · cases h
  · rintro ⟨field, rest, q, rfl, digits, rfl, left, rfl⟩
    rw [take_places digits, left]
    rfl

/-- The places of a field take a padded number that fills it. -/
theorem take_padded {digit : Char → Bool} (accepts : ∀ c, c.isDigit = true → digit c = true)
    {width n : Nat} (pos : 0 < width) (h : n < 10 ^ width) (shape text : List Char) :
    take digit (List.replicate width '0' ++ shape) (padded width n ++ text) =
      (take digit shape text).map fun p => (padded width n ++ p.1, p.2) := by
  have digits : ∀ c ∈ padded width n, digit c = true := fun c hc => accepts c (isDigit_of_mem_padded hc)
  have places := take_places digits shape text
  rwa [length_padded pos h] at places

/-! ## Fields of a run of digits -/

/-- Behind a field of width `n` the later fields begin. -/
theorem drop_field {field : List Char} {n : Nat} (width : field.length = n) (k : Nat) (rest : List Char) :
    (field ++ rest).drop (n + k) = rest.drop k := by
  rw [← List.drop_drop, List.drop_left' width]

end CatalogFilter.Digits
