import CatalogFilter.Proofs.Number.Rounding

/-!
# The fewest digits that read back

* `Decimal.value` — the value of a decimal.
* `Neighbourhood.ten_zpow_decade` — the decade of the number in the middle of a neighbourhood.
* `Neighbourhood.onGrid_cases` — what is taken on a grid of decimals.
* `Neighbourhood.shortest_ofFields` — the shortest decimal of a positive number lies in its neighbourhood: seventeen
  digits make a grid whose steps are shorter than every neighbourhood.
* `Binary64.ofDecimal_of_contains` — a decimal in the neighbourhood of a number is read as that number.

The last two together say that the shortest digits of a number read back.
-/

namespace CatalogFilter

namespace Decimal

/-- The value of a decimal. -/
def value (d : Decimal) : ℚ :=
  d.digits * 10 ^ d.exponent

/-- Zeros at the end of the digits count as much in the exponent. -/
theorem value_trim (fuel : ℕ) (d : Decimal) : (d.trim fuel).value = d.value := by
  induction fuel generalizing d with
  | zero => rfl
  | succ fuel ih =>
    unfold trim
    split
    · rename_i ends
      have tens : d.digits / 10 * 10 = d.digits := by omega
      have tens' : ((d.digits / 10 : ℕ) : ℚ) * 10 = d.digits := by exact_mod_cast tens
      rw [ih, value, value]
      dsimp only
      rw [zpow_add_one₀ (by norm_num), ← tens']
      ring
    · rfl

/-- Of digits that are not all zeros, some are left. -/
theorem digits_trim_pos (fuel : ℕ) {d : Decimal} (h : 0 < d.digits) : 0 < (d.trim fuel).digits := by
  induction fuel generalizing d with
  | zero => exact h
  | succ fuel ih =>
    unfold trim
    split
    · exact ih (by dsimp only; omega)
    · exact h

/-- The digits of a number put it between two powers of ten. -/
theorem ten_pow_length_toDigits {s : ℕ} (h : 0 < s) :
    10 ^ ((Nat.toDigits 10 s).length - 1) ≤ s ∧ s < 10 ^ (Nat.toDigits 10 s).length := by
  have nonempty : 0 < (Nat.toDigits 10 s).length := Nat.length_toDigits_pos
  constructor
  · by_contra less
    rcases Nat.eq_zero_or_pos ((Nat.toDigits 10 s).length - 1) with none | more
    · rw [none] at less
      omega
    · have shorter := (Nat.length_toDigits_le_iff (by norm_num) more).2 (not_le.1 less)
      omega
  · exact (Nat.length_toDigits_le_iff (by norm_num) nonempty).1 le_rfl

end Decimal

namespace Neighbourhood

variable {n : Neighbourhood}

/-- The number in the middle of a neighbourhood. -/
def middle (n : Neighbourhood) : ℚ :=
  n.m * 2 ^ n.scale

/-! ## Decades -/

/-- A quotient that is shifted by some places has as many digits before the point as say where its decade is. -/
theorem ten_zpow_length {num den : ℕ} (hd : 0 < den) (p : ℕ) (small : (10 : ℚ) ^ (-p : ℤ) ≤ num / den) :
    (10 : ℚ) ^ (((Nat.toDigits 10 (num * 10 ^ p / den)).length : ℤ) - (p + 1)) ≤ num / den ∧
      (num : ℚ) / den < 10 ^ (((Nat.toDigits 10 (num * 10 ^ p / den)).length : ℤ) - p) := by
  have ten : (10 : ℚ) ≠ 0 := by norm_num
  have shift : (0 : ℚ) < 10 ^ p := by positivity
  have denPos : (0 : ℚ) < den := by exact_mod_cast hd
  have pos : 0 < num * 10 ^ p / den := by
    rw [zpow_neg, zpow_natCast, inv_le_iff_one_le_mul₀ shift, div_mul_eq_mul_div, le_div_iff₀ denPos, one_mul] at small
    exact Nat.div_pos (by exact_mod_cast small) hd
  obtain ⟨low, high⟩ := Decimal.ten_pow_length_toDigits pos
  have nonempty : 0 < (Nat.toDigits 10 (num * 10 ^ p / den)).length := Nat.length_toDigits_pos
  generalize (Nat.toDigits 10 (num * 10 ^ p / den)).length = l at *
  rw [Nat.le_div_iff_mul_le hd] at low
  rw [Nat.div_lt_iff_lt_mul hd] at high
  have low' : (10 : ℚ) ^ (l - 1) * den ≤ num * 10 ^ p := by exact_mod_cast low
  have high' : (num : ℚ) * 10 ^ p < 10 ^ l * den := by exact_mod_cast high
  constructor
  · rw [show (l : ℤ) - (p + 1) = (l - 1 : ℕ) - p by omega, zpow_sub₀ ten, zpow_natCast, zpow_natCast,
      div_le_div_iff₀ shift denPos]
    exact low'
  · rw [zpow_sub₀ ten, zpow_natCast, zpow_natCast, div_lt_div_iff₀ denPos shift]
    exact high'

theorem middle_eq (n : Neighbourhood) : n.middle = (n.m * above 2 n.scale : ℕ) / (below 2 n.scale : ℕ) := by
  rw [middle, show (2 : ℚ) = (2 : ℕ) from rfl, ← above_div_below]
  push_cast
  ring

/-- A number that is not too small lies in its decade. -/
theorem ten_zpow_decade (small : (10 : ℚ) ^ (-340 : ℤ) ≤ n.middle) :
    (10 : ℚ) ^ n.decade ≤ n.middle ∧ n.middle < 10 ^ (n.decade + 1) := by
  rw [middle_eq] at small ⊢
  have decade_eq : n.decade =
      ((Nat.toDigits 10 (n.m * above 2 n.scale * 10 ^ 340 / below 2 n.scale)).length : ℤ) - (340 + 1) := rfl
  have next : n.decade + 1 =
      ((Nat.toDigits 10 (n.m * above 2 n.scale * 10 ^ 340 / below 2 n.scale)).length : ℤ) - 340 := by
    rw [decade_eq]
    ring
  rw [next, decade_eq]
  exact ten_zpow_length (below_pos two_pos n.scale) 340 small

/-! ## Grids -/

/-- A quarter of a unit of the number and a step of the grid, both counted in a measure that makes them integers. -/
theorem exists_measure (n : Neighbourhood) (k : ℤ) :
    ∃ g : ℚ, 0 < g ∧ ((above 2 (n.scale - 2) * below 10 k : ℕ) : ℚ) = 2 ^ (n.scale - 2) * g ∧
      ((above 10 k * below 2 (n.scale - 2) : ℕ) : ℚ) = 10 ^ k * g := by
  have b2 : (0 : ℚ) < below 2 (n.scale - 2) := by exact_mod_cast below_pos two_pos _
  have b10 : (0 : ℚ) < below 10 k := by exact_mod_cast below_pos (by norm_num) _
  refine ⟨below 2 (n.scale - 2) * below 10 k, by positivity, ?_, ?_⟩
  · rw [show (2 : ℚ) = (2 : ℕ) from rfl, ← above_div_below]
    push_cast
    field_simp
  · rw [show (10 : ℚ) = (10 : ℕ) from rfl, ← above_div_below]
    push_cast
    field_simp

/-- A grid point lies in the neighbourhood exactly when it is found inside. -/
theorem inside_iff {quarter unit : ℕ} {g : ℚ} {k : ℤ} (hg : 0 < g)
    (hq : (quarter : ℚ) = 2 ^ (n.scale - 2) * g) (hu : (unit : ℚ) = 10 ^ k * g) (c : ℕ) :
    (if n.closed then decide (n.low * quarter ≤ c * unit ∧ c * unit ≤ n.high * quarter)
      else decide (n.low * quarter < c * unit ∧ c * unit < n.high * quarter)) = true ↔
      n.Contains (c * 10 ^ k) := by
  have le_left : n.low * quarter ≤ c * unit ↔ (n.low : ℚ) * 2 ^ (n.scale - 2) ≤ c * 10 ^ k := by
    rw [← Nat.cast_le (α := ℚ), Nat.cast_mul, Nat.cast_mul, hq, hu, ← mul_assoc, ← mul_assoc, mul_le_mul_iff_left₀ hg]
  have le_right : c * unit ≤ n.high * quarter ↔ (c : ℚ) * 10 ^ k ≤ n.high * 2 ^ (n.scale - 2) := by
    rw [← Nat.cast_le (α := ℚ), Nat.cast_mul, Nat.cast_mul, hq, hu, ← mul_assoc, ← mul_assoc, mul_le_mul_iff_left₀ hg]
  have lt_left : n.low * quarter < c * unit ↔ (n.low : ℚ) * 2 ^ (n.scale - 2) < c * 10 ^ k := by
    rw [← Nat.cast_lt (α := ℚ), Nat.cast_mul, Nat.cast_mul, hq, hu, ← mul_assoc, ← mul_assoc, mul_lt_mul_iff_left₀ hg]
  have lt_right : c * unit < n.high * quarter ↔ (c : ℚ) * 10 ^ k < n.high * 2 ^ (n.scale - 2) := by
    rw [← Nat.cast_lt (α := ℚ), Nat.cast_mul, Nat.cast_mul, hq, hu, ← mul_assoc, ← mul_assoc, mul_lt_mul_iff_left₀ hg]
  unfold Contains
  by_cases closed : n.closed = true
  · simp only [closed, if_true, decide_eq_true_eq, le_left, le_right]
    tauto
  · rw [if_neg closed, decide_eq_true_eq, lt_left, lt_right]
    constructor
    · rintro ⟨low, high⟩
      refine ⟨low.le, high.le, ?_⟩
      rintro (same | same)
      · exact absurd same low.ne'
      · exact absurd same high.ne
    · rintro ⟨low, high, ends⟩
      exact ⟨lt_of_le_of_ne low fun same => closed (ends (.inl same.symm)),
        lt_of_le_of_ne high fun same => closed (ends (.inr same))⟩

/-- Of the two grid points next to the number, one that lies in the neighbourhood is taken if there is one. -/
theorem onGrid_cases (n : Neighbourhood) (k : ℤ) :
    ∃ c : ℕ, (c : ℚ) * 10 ^ k ≤ n.middle ∧ n.middle < (c + 1) * 10 ^ k ∧
      ((n.onGrid k = none ∧ ¬ n.Contains (c * 10 ^ k) ∧ ¬ n.Contains ((c + 1 : ℕ) * 10 ^ k)) ∨
        (n.onGrid k = some c ∧ n.Contains (c * 10 ^ k)) ∨
        (n.onGrid k = some (c + 1) ∧ n.Contains ((c + 1 : ℕ) * 10 ^ k))) := by
  obtain ⟨g, hg, hq, hu⟩ := exists_measure n k
  unfold onGrid
  generalize above 2 (n.scale - 2) * below 10 k = quarter at *
  generalize above 10 k * below 2 (n.scale - 2) = unit at *
  have unitPos : 0 < unit := by
    have : (0 : ℚ) < unit := by
      rw [hu]
      positivity
    exact_mod_cast this
  have middle_quarter : n.middle = 4 * n.m * 2 ^ (n.scale - 2) := by
    rw [middle, Neighbourhood.quarter]
    ring
  refine ⟨4 * n.m * quarter / unit, ?_, ?_, ?_⟩
  · have floor : 4 * n.m * quarter / unit * unit ≤ 4 * n.m * quarter := Nat.div_mul_le_self _ _
    have floor' : ((4 * n.m * quarter / unit : ℕ) : ℚ) * unit ≤ 4 * n.m * quarter := by exact_mod_cast floor
    rw [hq, hu, ← mul_assoc, ← mul_assoc] at floor'
    rw [middle_quarter]
    exact le_of_mul_le_mul_right floor' hg
  · have ceil : 4 * n.m * quarter < unit * (4 * n.m * quarter / unit + 1) := Nat.lt_mul_div_succ _ unitPos
    have ceil' : (4 * n.m * quarter : ℚ) < ((4 * n.m * quarter / unit : ℕ) + 1) * unit := by
      rw [mul_comm ((_ : ℚ) + 1)]
      exact_mod_cast ceil
    rw [hq, hu, ← mul_assoc, ← mul_assoc] at ceil'
    rw [middle_quarter]
    exact lt_of_mul_lt_mul_right ceil' hg.le
  · have first := inside_iff hg hq hu (4 * n.m * quarter / unit)
    have second := inside_iff hg hq hu (4 * n.m * quarter / unit + 1)
    dsimp only
    generalize 4 * n.m * quarter / unit = c at *
    generalize (if n.closed then decide (n.low * quarter ≤ c * unit ∧ c * unit ≤ n.high * quarter)
      else decide (n.low * quarter < c * unit ∧ c * unit < n.high * quarter)) = here at *
    generalize (if n.closed then decide (n.low * quarter ≤ (c + 1) * unit ∧ (c + 1) * unit ≤ n.high * quarter)
      else decide (n.low * quarter < (c + 1) * unit ∧ (c + 1) * unit < n.high * quarter)) = there at *
    rw [← first, ← second]
    cases here <;> cases there
    · exact .inl ⟨rfl, nofun, nofun⟩
    · exact .inr (.inr ⟨rfl, rfl⟩)
    · exact .inr (.inl ⟨rfl, rfl⟩)
    · dsimp only
      split_ifs
      · exact .inr (.inl ⟨rfl, rfl⟩)
      · exact .inr (.inr ⟨rfl, rfl⟩)
      · exact .inr (.inl ⟨rfl, rfl⟩)
      · exact .inr (.inr ⟨rfl, rfl⟩)

/-- A grid whose steps are shorter than the neighbourhood has a point in it. -/
theorem exists_onGrid {k : ℤ} (inner : n.low * 2 ^ (n.scale - 2) < n.middle)
    (outer : n.middle < n.high * 2 ^ (n.scale - 2))
    (fine : (10 : ℚ) ^ k < (n.high - n.low) * 2 ^ (n.scale - 2)) : ∃ c, n.onGrid k = some c := by
  obtain ⟨c, below, above, none | found | found⟩ := onGrid_cases n k
  · obtain ⟨-, notHere, notThere⟩ := none
    -- The lower point is outside, so it is beyond the lower end, and one step leads from there inside.
    have beyond : (c : ℚ) * 10 ^ k ≤ n.low * 2 ^ (n.scale - 2) := by
      by_contra inside
      push Not at inside
      refine notHere ⟨inside.le, by linarith, ?_⟩
      rintro (same | same) <;> linarith
    refine absurd ⟨?_, ?_, ?_⟩ notThere
    · push_cast
      linarith
    · push_cast
      linarith
    · push_cast
      rintro (same | same) <;> linarith
  · exact ⟨c, found.1⟩
  · exact ⟨c + 1, found.1⟩

/-- A point that is taken lies in the neighbourhood, and is not zero on a grid that is no coarser than the number. -/
theorem contains_of_onGrid {k : ℤ} {c : ℕ} (h : n.onGrid k = some c) :
    n.Contains (c * 10 ^ k) ∧ ((10 : ℚ) ^ k ≤ n.middle → 0 < c) := by
  obtain ⟨c', -, above, none | found | found⟩ := onGrid_cases n k
  · rw [none.1] at h
    cases h
  · rw [found.1] at h
    cases h
    refine ⟨found.2, fun coarse => ?_⟩
    by_contra zero
    rw [Nat.eq_zero_of_not_pos zero] at above
    norm_num at above
    linarith
  · rw [found.1] at h
    cases h
    exact ⟨found.2, fun _ => Nat.succ_pos c'⟩

/-- The search ends at the first grid that has a point, if there is one among those that are tried. -/
theorem search_eq (n : Neighbourhood) (top : ℤ) {fuel : ℕ} (count : ℕ) {j : ℕ} (tried : j < fuel)
    (found : ∃ c, n.onGrid (top + 1 - (count + j : ℕ)) = some c) :
    ∃ c i, n.search top fuel count = ⟨c, top + 1 - (count + i : ℕ)⟩ ∧
      n.onGrid (top + 1 - (count + i : ℕ)) = some c := by
  induction fuel generalizing count j with
  | zero => omega
  | succ fuel ih =>
    unfold search
    cases here : n.onGrid (top + 1 - count) with
    | some c => exact ⟨c, 0, rfl, here⟩
    | none =>
      cases j with
      | zero =>
        obtain ⟨c, hc⟩ := found
        rw [Nat.add_zero, here] at hc
        cases hc
      | succ j =>
        rw [show count + (j + 1) = count + 1 + j by omega] at found
        obtain ⟨c, i, same, hc⟩ := ih (count + 1) (by omega) found
        refine ⟨c, i + 1, ?_, ?_⟩
        · rw [show count + (i + 1) = count + 1 + i by omega]
          exact same
        · rw [show count + (i + 1) = count + 1 + i by omega]
          exact hc

/-! ## The shortest decimal -/

section Fields

open Binary64 (significand significand_le scale_ge)

variable {exponent : Fin 2047} {fraction : Fin (2 ^ 52)}

/-- No positive number is below the decades that are looked at. -/
theorem ten_zpow_le_two_zpow : (10 : ℚ) ^ (-340 : ℤ) ≤ 2 ^ (-1075 : ℤ) := by
  rw [zpow_neg, zpow_neg]
  apply inv_anti₀ (by positivity)
  calc (2 : ℚ) ^ (1075 : ℤ) ≤ 2 ^ (33 * 34 : ℤ) := zpow_le_zpow_right₀ one_le_two (by norm_num)
    _ = (2 ^ (33 : ℤ)) ^ (34 : ℤ) := zpow_mul _ _ _
    _ ≤ (10 ^ (10 : ℤ)) ^ (34 : ℤ) := zpow_le_zpow_left₀ (by norm_num) (by positivity) (by norm_num)
    _ = 10 ^ (340 : ℤ) := by rw [← zpow_mul]; norm_num

/-- No number is above the decades that are read. -/
theorem two_zpow_le_ten_zpow : (2 : ℚ) ^ (1024 : ℤ) ≤ 10 ^ (320 : ℤ) := by
  calc (2 : ℚ) ^ (1024 : ℤ) = 2 ^ (16 * 64 : ℤ) := by norm_num
    _ = (2 ^ (16 : ℤ)) ^ (64 : ℤ) := zpow_mul _ _ _
    _ ≤ (10 ^ (5 : ℤ)) ^ (64 : ℤ) := zpow_le_zpow_left₀ (by norm_num) (by positivity) (by norm_num)
    _ = 10 ^ (320 : ℤ) := by rw [← zpow_mul]; norm_num

/-- The unit of a number and the ends of its neighbourhood: half a unit to each side, or a quarter below a power of
two. -/
theorem ends_ofFields (pos : 0 < significand exponent fraction) :
    ∃ u : ℚ, 0 < u ∧ (ofFields exponent fraction).middle = significand exponent fraction * u ∧
      (ofFields exponent fraction).high * 2 ^ ((ofFields exponent fraction).scale - 2) =
        (significand exponent fraction + 1 / 2) * u ∧
      ((ofFields exponent fraction).low * 2 ^ ((ofFields exponent fraction).scale - 2) =
          (significand exponent fraction - 1 / 2) * u ∨
        significand exponent fraction = 2 ^ 52 ∧
          (ofFields exponent fraction).low * 2 ^ ((ofFields exponent fraction).scale - 2) =
            (significand exponent fraction - 1 / 4) * u) := by
  refine ⟨2 ^ Binary64.scale exponent, by positivity, rfl, ?_, ?_⟩
  · simp only [ofFields, quarter]
    push_cast
    ring
  · by_cases dense : fraction.val = 0 ∧ 1 < exponent.val
    · right
      have power : significand exponent fraction = 2 ^ 52 := by
        rw [Binary64.significand_of_pos (by omega), dense.1]
      refine ⟨power, ?_⟩
      simp only [ofFields, quarter, if_pos dense, power]
      norm_num
      ring
    · left
      simp only [ofFields, quarter, if_neg dense]
      rw [Nat.cast_sub (by omega)]
      push_cast
      ring

/-- The number in the middle is not below the decades that are looked at. -/
theorem ten_zpow_le_middle (pos : 0 < significand exponent fraction) :
    (10 : ℚ) ^ (-340 : ℤ) ≤ (ofFields exponent fraction).middle := by
  have one : (1 : ℚ) ≤ significand exponent fraction := by exact_mod_cast pos
  have least := scale_ge exponent
  calc (10 : ℚ) ^ (-340 : ℤ) ≤ 2 ^ (-1075 : ℤ) := ten_zpow_le_two_zpow
    _ ≤ 2 ^ Binary64.scale exponent := zpow_le_zpow_right₀ one_le_two (by omega)
    _ ≤ significand exponent fraction * 2 ^ Binary64.scale exponent := le_mul_of_one_le_left (by positivity) one

/-- Seventeen digits always suffice. -/
theorem exists_onGrid_seventeen (pos : 0 < significand exponent fraction) :
    ∃ c, (ofFields exponent fraction).onGrid ((ofFields exponent fraction).decade + 1 - 17) = some c := by
  obtain ⟨u, hu, middle_eq, high, low⟩ := ends_ofFields pos
  obtain ⟨decade, -⟩ := ten_zpow_decade (ten_zpow_le_middle pos)
  have few := significand_le exponent fraction
  have step : (10 : ℚ) ^ 16 * 10 ^ ((ofFields exponent fraction).decade + 1 - 17) ≤
      significand exponent fraction * u := by
    rw [← middle_eq]
    refine le_trans (le_of_eq ?_) decade
    rw [← zpow_natCast, ← zpow_add₀ (by norm_num)]
    congr 1
    push_cast
    ring
  have stepPos : (0 : ℚ) < 10 ^ ((ofFields exponent fraction).decade + 1 - 17) := by positivity
  apply exists_onGrid
  · rw [middle_eq]
    rcases low with low | ⟨-, low⟩ <;> rw [low] <;> linarith
  · rw [middle_eq, high]
    linarith
  · rw [sub_mul, high]
    rcases low with low | ⟨power, low⟩
    · rw [low]
      nlinarith
    · rw [low]
      rw [power] at step
      push_cast at step
      nlinarith

/-- The shortest decimal of a positive number lies in its neighbourhood and is not zero. -/
theorem shortest_ofFields (pos : 0 < significand exponent fraction) :
    (ofFields exponent fraction).Contains (ofFields exponent fraction).shortest.value ∧
      0 < (ofFields exponent fraction).shortest.digits := by
  obtain ⟨decade, -⟩ := ten_zpow_decade (ten_zpow_le_middle pos)
  obtain ⟨c, i, found, taken⟩ :=
    search_eq _ (ofFields exponent fraction).decade 1 (by norm_num : 16 < 17) (exists_onGrid_seventeen pos)
  obtain ⟨inside, positive⟩ := contains_of_onGrid taken
  have nonzero : 0 < c := positive (le_trans (zpow_le_zpow_right₀ (by norm_num) (by omega)) decade)
  rw [shortest, found]
  refine ⟨?_, Decimal.digits_trim_pos 20 nonzero⟩
  rw [Decimal.value_trim]
  exact inside

end Fields

end Neighbourhood

/-! ## Reading decimals -/

namespace Binary64

variable {exponent : Fin 2047} {fraction : Fin (2 ^ 52)}

/-- A decimal in the neighbourhood of a positive number is neither too great nor too small to be read. -/
theorem size_of_contains (pos : 0 < significand exponent fraction) {digits : ℕ} {power : ℤ} (nonzero : 0 < digits)
    (h : (Neighbourhood.ofFields exponent fraction).Contains (digits * 10 ^ power)) :
    -340 ≤ power + (Nat.toDigits 10 digits).length ∧ power + (Nat.toDigits 10 digits).length ≤ 320 := by
  obtain ⟨low, high, -, -⟩ := Neighbourhood.bounds_of_contains pos h
  have unit : (0 : ℚ) < 2 ^ scale exponent := by positivity
  have one : (1 : ℚ) ≤ significand exponent fraction := by exact_mod_cast pos
  have few := significand_le exponent fraction
  have ten : (10 : ℚ) ≠ 0 := by norm_num
  obtain ⟨least, most⟩ := Decimal.ten_pow_length_toDigits nonzero
  have length : 0 < (Nat.toDigits 10 digits).length := Nat.length_toDigits_pos
  have least' : (10 : ℚ) ^ ((Nat.toDigits 10 digits).length - 1) ≤ digits := by exact_mod_cast least
  have most' : (digits : ℚ) < 10 ^ (Nat.toDigits 10 digits).length := by exact_mod_cast most
  generalize (Nat.toDigits 10 digits).length = l at *
  constructor
  · have bottom := scale_ge exponent
    have bounded : (10 : ℚ) ^ (-340 : ℤ) < 10 ^ (power + l) := by
      calc (10 : ℚ) ^ (-340 : ℤ) ≤ 2 ^ (-1075 : ℤ) := Neighbourhood.ten_zpow_le_two_zpow
        _ ≤ 2 ^ (scale exponent - 1) := zpow_le_zpow_right₀ one_le_two (by omega)
        _ = 1 / 2 * 2 ^ scale exponent := by rw [zpow_sub₀ two_ne_zero, zpow_one]; ring
        _ ≤ (significand exponent fraction - 1 / 2) * 2 ^ scale exponent := by gcongr; linarith
        _ ≤ digits * 10 ^ power := low
        _ < 10 ^ l * 10 ^ power := by gcongr
        _ = 10 ^ (power + l) := by rw [zpow_add₀ ten, zpow_natCast, mul_comm]
    exact ((zpow_lt_zpow_iff_right₀ (by norm_num)).1 bounded).le
  · have top : scale exponent ≤ 971 := by
      rw [scale_eq]
      omega
    have bounded : (10 : ℚ) ^ (l - 1 + power : ℤ) < 10 ^ (320 : ℤ) := by
      calc (10 : ℚ) ^ (l - 1 + power : ℤ) = 10 ^ (l - 1) * 10 ^ power := by
            rw [zpow_add₀ ten, ← zpow_natCast, Nat.cast_sub length, Nat.cast_one]
        _ ≤ digits * 10 ^ power := by gcongr
        _ ≤ (significand exponent fraction + 1 / 2) * 2 ^ scale exponent := high
        _ < 2 ^ 53 * 2 ^ scale exponent := by gcongr; linarith
        _ ≤ 2 ^ 53 * 2 ^ (971 : ℤ) := by gcongr; norm_num
        _ = 2 ^ (1024 : ℤ) := by rw [← zpow_natCast, ← zpow_add₀ two_ne_zero]; norm_num
        _ ≤ 10 ^ (320 : ℤ) := Neighbourhood.two_zpow_le_ten_zpow
    have := (zpow_lt_zpow_iff_right₀ (by norm_num)).1 bounded
    omega

/-- A decimal in the neighbourhood of a positive number is read as that number. -/
theorem ofDecimal_of_contains (pos : 0 < significand exponent fraction) {digits : ℕ} {power : ℤ} (nonzero : 0 < digits)
    (h : (Neighbourhood.ofFields exponent fraction).Contains (digits * 10 ^ power)) (negative : Bool) :
    ofDecimal negative digits power = .finite negative exponent fraction := by
  obtain ⟨notSmall, notGreat⟩ := size_of_contains pos nonzero h
  unfold ofDecimal
  dsimp only
  rw [if_neg nonzero.ne', if_neg (not_lt.2 notGreat), if_neg (not_lt.2 notSmall)]
  cases power with
  | ofNat k =>
    apply ofRatio_of_contains one_pos pos
    rw [Int.ofNat_eq_natCast, zpow_natCast] at h
    simpa using h
  | negSucc k =>
    apply ofRatio_of_contains (by positivity) pos
    rw [zpow_negSucc, ← div_eq_mul_inv] at h
    simpa using h

end Binary64

end CatalogFilter
