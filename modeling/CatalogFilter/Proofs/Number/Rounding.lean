import CatalogFilter.Number.Shortest
import Mathlib

/-!
# Rounding to the nearest binary number

* `Binary64.roundHalfEven_eq` — a quotient is rounded to the integer that it is nearest to.
* `Binary64.two_zpow_binaryExponent` — the binade of a quotient.
* `Neighbourhood.Contains` — the values that lie in the neighbourhood of a binary number.
* `Binary64.ofRatio_of_contains` — every quotient in the neighbourhood of a number is rounded to that number.

A quotient is counted in units: the power of two that leaves 53 digits before the point, but never less than the
least one. Almost everywhere the unit of a quotient is the unit of the number that it is rounded to. Only below a
power of two it is half of that, and the rounded count is carried into the next binade.
-/

namespace CatalogFilter

/-! ## Powers above and below the fraction line -/

namespace Neighbourhood

theorem above_div_below (base : ℕ) (k : ℤ) : (above base k : ℚ) / below base k = (base : ℚ) ^ k := by
  cases k with
  | ofNat k => simp [above, below]
  | negSucc k => simp [above, below, zpow_negSucc]

theorem above_pos {base : ℕ} (h : 0 < base) (k : ℤ) : 0 < above base k := by
  cases k with
  | ofNat k => exact Nat.pow_pos h
  | negSucc k => exact Nat.one_pos

theorem below_pos {base : ℕ} (h : 0 < base) (k : ℤ) : 0 < below base k := by
  cases k with
  | ofNat k => exact Nat.one_pos
  | negSucc k => exact Nat.pow_pos h

end Neighbourhood

namespace Binary64

open Neighbourhood

variable {num den m : ℕ} {q : ℤ} {exponent : Fin 2047} {fraction : Fin (2 ^ 52)}

/-! ## Integers and binades -/

/-- A quotient is rounded to a number that is at most half a unit away, as far as that only if the number is even. -/
theorem roundHalfEven_eq (pos : 0 < den) (low : 2 * m * den ≤ 2 * num + den) (high : 2 * num ≤ 2 * m * den + den)
    (tie : 2 * num + den = 2 * m * den ∨ 2 * num = 2 * m * den + den → m % 2 = 0) :
    roundHalfEven num den = m := by
  have whole : den * (num / den) + num % den = num := Nat.div_add_mod num den
  have rest : num % den < den := Nat.mod_lt num pos
  unfold roundHalfEven
  generalize num / den = floor at *
  generalize num % den = r at *
  subst whole
  have up : m ≤ floor + 1 := by
    by_contra far
    have step : (floor + 2) * den ≤ m * den := Nat.mul_le_mul_right den (by omega)
    nlinarith
  have down : floor ≤ m := by
    by_contra far
    have step : (m + 1) * den ≤ floor * den := Nat.mul_le_mul_right den (by omega)
    nlinarith
  have same : m = floor ∨ m = floor + 1 := by omega
  rcases same with rfl | rfl
  · have below : 2 * r ≤ den := by nlinarith
    have even : 2 * r = den → m % 2 = 0 := fun half => tie (.inr (by nlinarith))
    simp only
    split_ifs <;> omega
  · have above : den ≤ 2 * r := by nlinarith
    have even : 2 * r = den → (floor + 1) % 2 = 0 := fun half => tie (.inl (by nlinarith))
    simp only
    split_ifs <;> omega

/-- A positive quotient lies in its binade. -/
theorem two_zpow_binaryExponent (hn : 0 < num) (hd : 0 < den) :
    (2 : ℚ) ^ binaryExponent num den ≤ num / den ∧ (num : ℚ) / den < 2 ^ (binaryExponent num den + 1) := by
  have numLow : (2 : ℚ) ^ Nat.log2 num ≤ num := by exact_mod_cast Nat.log2_self_le hn.ne'
  have numHigh : (num : ℚ) < 2 ^ (Nat.log2 num + 1) := by exact_mod_cast Nat.lt_log2_self
  have denLow : (2 : ℚ) ^ Nat.log2 den ≤ den := by exact_mod_cast Nat.log2_self_le hd.ne'
  have denHigh : (den : ℚ) < 2 ^ (Nat.log2 den + 1) := by exact_mod_cast Nat.lt_log2_self
  have denPos : (0 : ℚ) < den := by exact_mod_cast hd
  -- The lengths of both parts leave two binades, of which the comparison takes one.
  have high : (num : ℚ) / den < 2 ^ ((Nat.log2 num : ℤ) - Nat.log2 den + 1) := by
    rw [div_lt_iff₀ denPos]
    calc (num : ℚ) < 2 ^ (Nat.log2 num + 1) := numHigh
      _ = 2 ^ ((Nat.log2 num : ℤ) - Nat.log2 den + 1) * 2 ^ Nat.log2 den := by
        rw [← zpow_natCast, ← zpow_natCast, ← zpow_add₀ two_ne_zero]
        congr 1
        push_cast
        ring
      _ ≤ 2 ^ ((Nat.log2 num : ℤ) - Nat.log2 den + 1) * den := by gcongr
  have low : (2 : ℚ) ^ ((Nat.log2 num : ℤ) - Nat.log2 den - 1) ≤ num / den := by
    rw [le_div_iff₀ denPos]
    calc (2 : ℚ) ^ ((Nat.log2 num : ℤ) - Nat.log2 den - 1) * den
        ≤ 2 ^ ((Nat.log2 num : ℤ) - Nat.log2 den - 1) * 2 ^ (Nat.log2 den + 1) := by gcongr
      _ = 2 ^ Nat.log2 num := by
        rw [← zpow_natCast, ← zpow_natCast, ← zpow_add₀ two_ne_zero]
        congr 1
        push_cast
        ring
      _ ≤ num := numLow
  have whole (k : ℕ) : den * 2 ^ k ≤ num ↔ (2 : ℚ) ^ Int.ofNat k ≤ num / den := by
    rw [le_div_iff₀ denPos, Int.ofNat_eq_natCast, zpow_natCast, mul_comm]
    norm_cast
  have broken (k : ℕ) : den ≤ num * 2 ^ (k + 1) ↔ (2 : ℚ) ^ Int.negSucc k ≤ num / den := by
    have p : (0 : ℚ) < 2 ^ (k + 1) := by positivity
    rw [le_div_iff₀ denPos, zpow_negSucc, inv_mul_le_iff₀ p, mul_comm]
    norm_cast
  unfold binaryExponent
  simp only
  generalize (Nat.log2 num : ℤ) - Nat.log2 den = guess at low high ⊢
  cases guess with
  | ofNat k =>
    simp only [whole]
    split_ifs with h
    · exact ⟨of_decide_eq_true h, high⟩
    · refine ⟨low, ?_⟩
      rw [sub_add_cancel]
      exact lt_of_not_ge fun hh => h (decide_eq_true hh)
  | negSucc k =>
    simp only [broken]
    split_ifs with h
    · exact ⟨of_decide_eq_true h, high⟩
    · refine ⟨low, ?_⟩
      rw [sub_add_cancel]
      exact lt_of_not_ge fun hh => h (decide_eq_true hh)

/-! ## Units -/

/-- The power of two that a quotient is counted in: 53 digits stand before the point, but the power is never below
the least one. -/
def unitExponent (num den : ℕ) : ℤ :=
  max (binaryExponent num den - 52) (-1074)

/-- The number of units in a quotient, rounded. -/
def unitsOf (num den : ℕ) (power : ℤ) : ℕ :=
  roundHalfEven (num * below 2 power) (den * above 2 power)

/-- A positive quotient is rounded to its units. -/
theorem ofRatio_eq_pack (pos : 0 < num) (negative : Bool) (den : ℕ) :
    ofRatio negative num den =
      pack negative (unitsOf num den (unitExponent num den)) (unitExponent num den + 1075).toNat := by
  rw [ofRatio, if_neg pos.ne']
  unfold unitsOf unitExponent
  cases max (binaryExponent num den - 52) (-1074) with
  | ofNat k => simp [above, below]
  | negSucc k => simp [above, below]

/-- A quotient with 53 digits before the point is counted in that unit; with fewer, if there is no lesser unit. -/
theorem unitExponent_eq (hn : 0 < num) (hd : 0 < den) (least : -1074 ≤ q)
    (low : q = -1074 ∨ (2 : ℚ) ^ (q + 52) ≤ num / den) (high : (num : ℚ) / den < 2 ^ (q + 53)) :
    unitExponent num den = q := by
  obtain ⟨below, above⟩ := two_zpow_binaryExponent hn hd
  have upper : binaryExponent num den < q + 53 :=
    (zpow_lt_zpow_iff_right₀ one_lt_two).1 (lt_of_le_of_lt below high)
  unfold unitExponent
  rcases low with rfl | low
  · omega
  · have lower : q + 52 < binaryExponent num den + 1 :=
      (zpow_lt_zpow_iff_right₀ one_lt_two).1 (lt_of_le_of_lt low above)
    omega

/-- A quotient that is at most half a unit away from a number of units counts as that number. -/
theorem unitsOf_eq (hd : 0 < den) (low : ((m : ℚ) - 1 / 2) * 2 ^ q ≤ num / den)
    (high : (num : ℚ) / den ≤ (m + 1 / 2) * 2 ^ q)
    (tie : (num : ℚ) / den = (m - 1 / 2) * 2 ^ q ∨ (num : ℚ) / den = (m + 1 / 2) * 2 ^ q → m % 2 = 0) :
    unitsOf num den q = m := by
  have belowPos : 0 < below 2 q := below_pos two_pos q
  have abovePos : 0 < above 2 q := above_pos two_pos q
  unfold unitsOf
  rw [show (2 : ℚ) = (2 : ℕ) from rfl, ← above_div_below] at low high tie
  generalize below 2 q = b at *
  generalize above 2 q = a at *
  have hb : (0 : ℚ) < b := by exact_mod_cast belowPos
  have hd' : (0 : ℚ) < den := by exact_mod_cast hd
  rw [mul_div_assoc', div_le_div_iff₀ hb hd'] at low
  rw [mul_div_assoc', div_le_div_iff₀ hd' hb] at high
  rw [mul_div_assoc', div_eq_div_iff hd'.ne' hb.ne', mul_div_assoc', div_eq_div_iff hd'.ne' hb.ne'] at tie
  push_cast at low high tie
  apply roundHalfEven_eq (by positivity)
  · have scaled : (2 * m * (den * a) : ℚ) ≤ 2 * (num * b) + den * a := by linarith
    exact_mod_cast scaled
  · have scaled : (2 * (num * b) : ℚ) ≤ 2 * m * (den * a) + den * a := by linarith
    exact_mod_cast scaled
  · rintro (half | half)
    · have scaled : (2 * (num * b) + den * a : ℚ) = 2 * m * (den * a) := by exact_mod_cast half
      exact tie (.inl (by linarith))
    · have scaled : (2 * (num * b) : ℚ) = 2 * m * (den * a) + den * a := by exact_mod_cast half
      exact tie (.inr (by linarith))

/-! ## Fields -/

theorem significand_of_pos (h : 0 < exponent.val) : significand exponent fraction = 2 ^ 52 + fraction.val :=
  if_neg h.ne'

theorem significand_lt (exponent : Fin 2047) (fraction : Fin (2 ^ 52)) :
    significand exponent fraction < 2 ^ 53 := by
  have := fraction.isLt
  unfold significand
  split <;> omega

theorem scale_eq (exponent : Fin 2047) : scale exponent = max (exponent.val : ℤ) 1 - 1075 := by
  rw [scale, Nat.cast_max, Nat.cast_one]

/-- A significand of 53 digits is packed without its leading one. -/
theorem pack_normal (negative : Bool) {field : ℕ} (low : 2 ^ 52 ≤ m) (high : m < 2 ^ 53) (h : field < 2047) :
    pack negative m field = .finite negative ⟨field, h⟩ (Fin.ofNat _ (m - 2 ^ 52)) := by
  have carried : (if m = 2 ^ 53 then (2 ^ 52, field + 1) else (m, field)) = (m, field) := if_neg high.ne
  rw [pack, if_neg (not_lt.2 low)]
  simp only [carried]
  exact dif_pos h

/-- A significand that has been rounded up to 54 digits is carried into the next binade. -/
theorem pack_carried (negative : Bool) {field : ℕ} (h : field + 1 < 2047) :
    pack negative (2 ^ 53) field = .finite negative ⟨field + 1, h⟩ 0 := by
  rw [pack, if_neg (by norm_num)]
  simp only [if_true]
  rw [dif_pos h, Nat.sub_self]
  rfl

/-- A significand and the exponent of its unit are packed into the fields that they come from. -/
theorem pack_fields (negative : Bool) (exponent : Fin 2047) (fraction : Fin (2 ^ 52)) :
    pack negative (significand exponent fraction) (scale exponent + 1075).toNat =
      .finite negative exponent fraction := by
  have field : (scale exponent + 1075).toNat = max exponent.val 1 := by
    rw [scale_eq]
    omega
  have small := fraction.isLt
  have same : Fin.ofNat (2 ^ 52) fraction.val = fraction := Fin.ext (Nat.mod_eq_of_lt small)
  rw [field]
  by_cases tiny : exponent.val = 0
  · have m : significand exponent fraction = fraction.val := if_pos tiny
    have zero : exponent = 0 := Fin.ext tiny
    rw [pack, m, if_pos small, zero, same]
  · have m : significand exponent fraction = 2 ^ 52 + fraction.val := if_neg tiny
    have e : max exponent.val 1 = exponent.val := by omega
    rw [m, e, pack_normal negative (by omega) (by omega) exponent.isLt, Nat.add_sub_cancel_left, same]

end Binary64

/-! ## Neighbourhoods -/

namespace Neighbourhood

open Binary64 (significand)

/-- Whether a value lies in a neighbourhood: between its ends, which belong to it only if it is closed. -/
def Contains (n : Neighbourhood) (v : ℚ) : Prop :=
  n.low * 2 ^ (n.scale - 2) ≤ v ∧ v ≤ n.high * 2 ^ (n.scale - 2) ∧
    (v = n.low * 2 ^ (n.scale - 2) ∨ v = n.high * 2 ^ (n.scale - 2) → n.closed = true)

theorem quarter (q : ℤ) : (2 : ℚ) ^ (q - 2) = 2 ^ q / 4 := by
  rw [zpow_sub₀ two_ne_zero]
  norm_num

/-- A value in the neighbourhood of a positive number is at most half a unit away from it, as far as that only from
an even significand, and only a quarter below a power of two with lesser units below it. -/
theorem bounds_of_contains {exponent : Fin 2047} {fraction : Fin (2 ^ 52)} {v : ℚ}
    (pos : 0 < significand exponent fraction) (h : (ofFields exponent fraction).Contains v) :
    ((significand exponent fraction : ℚ) - 1 / 2) * 2 ^ Binary64.scale exponent ≤ v ∧
      v ≤ ((significand exponent fraction : ℚ) + 1 / 2) * 2 ^ Binary64.scale exponent ∧
      (v = ((significand exponent fraction : ℚ) - 1 / 2) * 2 ^ Binary64.scale exponent ∨
        v = ((significand exponent fraction : ℚ) + 1 / 2) * 2 ^ Binary64.scale exponent →
          significand exponent fraction % 2 = 0) ∧
      (fraction.val = 0 → 1 < exponent.val →
        ((significand exponent fraction : ℚ) - 1 / 4) * 2 ^ Binary64.scale exponent ≤ v) := by
  obtain ⟨low, high, ends⟩ := h
  simp only [ofFields, quarter, decide_eq_true_eq] at low high ends
  generalize significand exponent fraction = m at *
  have unit : (0 : ℚ) < 2 ^ Binary64.scale exponent := by positivity
  generalize (2 : ℚ) ^ Binary64.scale exponent = u at *
  push_cast at high ends
  by_cases dense : fraction.val = 0 ∧ 1 < exponent.val
  · have narrow : ((4 * m - 1 : ℕ) : ℚ) = 4 * m - 1 := by
      rw [Nat.cast_sub (by omega)]
      push_cast
      ring
    simp only [if_pos dense, narrow] at low ends
    refine ⟨by linarith, by linarith, ?_, fun _ _ => by linarith⟩
    rintro (tie | tie)
    · exact absurd tie (by linarith)
    · exact ends (.inr (by linarith))
  · have wide : ((4 * m - 2 : ℕ) : ℚ) = 4 * m - 2 := by
      rw [Nat.cast_sub (by omega)]
      push_cast
      ring
    simp only [if_neg dense, wide] at low ends
    refine ⟨by linarith, by linarith, ?_, fun a b => absurd ⟨a, b⟩ dense⟩
    rintro (tie | tie)
    · exact ends (.inl (by linarith))
    · exact ends (.inr (by linarith))

end Neighbourhood

namespace Binary64

section Nearest

variable {num den : ℕ} {exponent : Fin 2047} {fraction : Fin (2 ^ 52)}

theorem scale_ge (exponent : Fin 2047) : -1074 ≤ scale exponent := by
  rw [scale_eq]
  omega

theorem significand_le (exponent : Fin 2047) (fraction : Fin (2 ^ 52)) :
    (significand exponent fraction : ℚ) ≤ 2 ^ 53 - 1 := by
  have few : significand exponent fraction + 1 ≤ 2 ^ 53 := significand_lt exponent fraction
  have few' : (significand exponent fraction : ℚ) + 1 ≤ 2 ^ 53 := by exact_mod_cast few
  linarith

/-- What lies below the binade of a number, but in its neighbourhood, is the upper end of the binade below, and is
counted there in half the unit and carried. -/
theorem ofRatio_below_binade (hn : 0 < num) (hd : 0 < den) (inner : scale exponent ≠ -1074)
    (under : (num : ℚ) / den < 2 ^ (scale exponent + 52)) (pos : 0 < significand exponent fraction)
    (h : (Neighbourhood.ofFields exponent fraction).Contains (num / den)) (negative : Bool) :
    ofRatio negative num den = .finite negative exponent fraction := by
  obtain ⟨low, -, -, dense⟩ := Neighbourhood.bounds_of_contains pos h
  have unit : (0 : ℚ) < 2 ^ scale exponent := by positivity
  have half : (2 : ℚ) ^ (scale exponent - 1) = 2 ^ scale exponent / 2 := by rw [zpow_sub₀ two_ne_zero, zpow_one]
  have normal : 1 < exponent.val := by
    rw [scale_eq] at inner
    omega
  have significand_eq : significand exponent fraction = 2 ^ 52 + fraction.val := significand_of_pos (by omega)
  have stop : (2 : ℚ) ^ (scale exponent + 52) = 2 ^ 52 * 2 ^ scale exponent := by
    rw [zpow_add₀ two_ne_zero, mul_comm]
    norm_num
  rw [stop] at under
  have zero : fraction.val = 0 := by
    by_contra more
    have more' : 2 ^ 52 + 1 ≤ significand exponent fraction := by omega
    have more'' : (2 ^ 52 + 1 : ℚ) ≤ significand exponent fraction := by exact_mod_cast more'
    nlinarith
  have near := dense zero normal
  rw [significand_eq, zero, Nat.add_zero] at near
  push_cast at near
  have start : (2 : ℚ) ^ (scale exponent - 1 + 52) = 2 ^ 51 * 2 ^ scale exponent := by
    rw [zpow_add₀ two_ne_zero, half]
    norm_num
    ring
  have counted : unitExponent num den = scale exponent - 1 := by
    apply unitExponent_eq hn hd
    · have := scale_ge exponent
      omega
    · right
      rw [start]
      linarith
    · rw [show scale exponent - 1 + 53 = scale exponent + 52 by ring, stop]
      exact under
  have units : unitsOf num den (scale exponent - 1) = 2 ^ 53 := by
    apply unitsOf_eq hd
    · rw [half]
      push_cast
      linarith
    · rw [half]
      push_cast
      linarith
    · norm_num
  have field : (scale exponent - 1 + 1075).toNat = exponent.val - 1 := by
    rw [scale_eq]
    omega
  have next : exponent.val - 1 + 1 < 2047 := by omega
  have same : (⟨exponent.val - 1 + 1, next⟩ : Fin 2047) = exponent := Fin.ext (Nat.sub_add_cancel normal.le)
  have none : fraction = 0 := Fin.ext zero
  rw [ofRatio_eq_pack hn, counted, units, field, pack_carried negative next, same, none]

/-- Every quotient in the neighbourhood of a positive number is rounded to that number. -/
theorem ofRatio_of_contains (hd : 0 < den) (pos : 0 < significand exponent fraction)
    (h : (Neighbourhood.ofFields exponent fraction).Contains (num / den)) (negative : Bool) :
    ofRatio negative num den = .finite negative exponent fraction := by
  obtain ⟨low, high, tie, -⟩ := Neighbourhood.bounds_of_contains pos h
  have unit : (0 : ℚ) < 2 ^ scale exponent := by positivity
  have one : (1 : ℚ) ≤ significand exponent fraction := by exact_mod_cast pos
  have few := significand_le exponent fraction
  have numPos : 0 < num := by
    have positive : (0 : ℚ) < num / den := by nlinarith
    by_contra none
    rw [Nat.eq_zero_of_not_pos none] at positive
    simp at positive
  by_cases counted : scale exponent = -1074 ∨ (2 : ℚ) ^ (scale exponent + 52) ≤ num / den
  · have above : (num : ℚ) / den < 2 ^ (scale exponent + 53) := by
      rw [zpow_add₀ two_ne_zero]
      norm_num
      nlinarith
    rw [ofRatio_eq_pack numPos, unitExponent_eq numPos hd (scale_ge exponent) counted above,
      unitsOf_eq hd low high tie, pack_fields]
  · push Not at counted
    exact ofRatio_below_binade numPos hd counted.1 counted.2 pos h negative

end Nearest

end Binary64

end CatalogFilter
