import CatalogFilter.Operator
import CatalogFilter.Text.Case
import Mathlib

/-!
# Lower case is stable

* `Text.Settled` — a character whose lower case, in any word, is itself.
* `Text.settled_of_mem_lowerAfter` — the lower case of a text has only such characters.
* `Text.lower_lower` — a text in lower case is its own lower case.
* `Operator.lower_symbol` — the operators are written in lower case.

That no run of the table leads into another one is checked run by run: `Text.clearOf` looks at the images of a
whole run at once, so the check grows with the number of runs and not with the number of characters.
-/

namespace CatalogFilter.Text

/-! ## Runs -/

/-- Whether the characters from `low` to `high` are two apart, or there is only one. -/
def sparse (low high step : Nat) : Bool :=
  Nat.beq step 2 || Nat.beq low high

/-- Whether the runs leave alone the characters from `low` to `high` in steps of `step`: each run lies to one
side of them, or both go in twos and on different numbers, odd and even. -/
def clearOf (low high step : Nat) : List (Nat × Nat × Nat × Int) → Bool
  | [] => true
  | (first, last, stride, _) :: rest =>
    Nat.blt high first ||
      ((Nat.blt last low ||
          (sparse low high step && sparse first last stride && Nat.beq ((first + low) % 2) 1)) &&
        clearOf low high step rest)

/-- Steps of two keep the parity, and a single character has one parity. -/
theorem mod_two_of_sparse {low high step c : Nat} (h : sparse low high step = true) (above : low ≤ c)
    (below : c ≤ high) (onStep : (c - low) % step = 0) : c % 2 = low % 2 := by
  unfold sparse at h
  rw [Bool.or_eq_true, Nat.beq_eq, Nat.beq_eq] at h
  rcases h with rfl | rfl
  · omega
  · rw [Nat.le_antisymm below above]

/-- A character that the runs leave alone is its own lower case. -/
theorem lowerByRuns_of_clearOf {low high step c : Nat} (above : low ≤ c) (below : c ≤ high)
    (onStep : (c - low) % step = 0) {runs : List (Nat × Nat × Nat × Int)}
    (clear : clearOf low high step runs = true) :
    lowerByRuns c runs = c := by
  induction runs with
  | nil => rfl
  | cons run rest ih =>
    obtain ⟨first, last, stride, distance⟩ := run
    rw [clearOf, Bool.or_eq_true, Bool.and_eq_true, Bool.or_eq_true, Bool.and_eq_true, Bool.and_eq_true,
      Nat.blt_eq, Nat.blt_eq, Nat.beq_eq] at clear
    unfold lowerByRuns
    rcases clear with right | ⟨left | ⟨⟨sparse, sparseRun⟩, odd⟩, clearRest⟩
    · rw [if_pos (by omega)]
    · split
      · rfl
      · rw [if_neg (by omega), ih clearRest]
    · split
      · rfl
      · rename_i notBelow
        have outside : ¬ (c ≤ last ∧ (c - first) % stride = 0) := by
          rintro ⟨atMost, onStride⟩
          have parity := mod_two_of_sparse sparse above below onStep
          have parityRun := mod_two_of_sparse sparseRun (Nat.le_of_not_lt notBelow) atMost onStride
          omega
        rw [if_neg outside, ih clearRest]

/-- A character is its own lower case by some runs, or lies on a run that moves it. -/
theorem lowerByRuns_cases (c : Nat) (runs : List (Nat × Nat × Nat × Int)) :
    lowerByRuns c runs = c ∨ ∃ first last step distance, (first, last, step, distance) ∈ runs ∧ first ≤ c ∧
      c ≤ last ∧ (c - first) % step = 0 ∧ lowerByRuns c runs = (c + distance).toNat := by
  induction runs with
  | nil => exact .inl rfl
  | cons run rest ih =>
    obtain ⟨first, last, step, distance⟩ := run
    unfold lowerByRuns
    split
    · exact .inl rfl
    · rename_i notBelow
      split
      · rename_i inside
        exact .inr ⟨first, last, step, distance, List.mem_cons_self, Nat.le_of_not_lt notBelow, inside.1, inside.2,
          rfl⟩
      · rcases ih with same | ⟨first', last', step', distance', mem, rest'⟩
        · exact .inl same
        · exact .inr ⟨first', last', step', distance', List.mem_cons_of_mem _ mem, rest'⟩

/-- Whether a run leads to characters that the table and the rule for the capital I with a dot leave alone. -/
def leadsOut : Nat × Nat × Nat × Int → Bool
  | (first, last, step, distance) =>
    clearOf (first + distance).toNat (last + distance).toNat step lowerRuns &&
      clearOf (first + distance).toNat (last + distance).toNat step [(0x130, 0x130, 2, 1)] &&
      decide (0 ≤ first + distance)

/-- Every run of the table does so. -/
theorem leadsOut_lowerRuns : lowerRuns.all leadsOut = true := by
  decide +kernel

/-- The image of a run is left alone by every list of runs that leaves alone the images of its ends. -/
theorem lowerByRuns_image {first last step c : Nat} {distance : Int} (positive : 0 ≤ first + distance)
    (above : first ≤ c) (below : c ≤ last) (onStep : (c - first) % step = 0)
    {runs : List (Nat × Nat × Nat × Int)}
    (clear : clearOf (first + distance).toNat (last + distance).toNat step runs = true) :
    lowerByRuns (c + distance).toNat runs = (c + distance).toNat := by
  have shift : (c + distance).toNat - (first + distance).toNat = c - first := by omega
  exact lowerByRuns_of_clearOf (by omega) (by omega) (by rw [shift, onStep]) clear

/-! ## Characters -/

/-- Whether the lower case of a character is itself, wherever it stands. -/
def Settled (c : Char) : Prop :=
  c ≠ '\u03A3' ∧ lowerChar c = [c]

instance (c : Char) : Decidable (Settled c) :=
  inferInstanceAs (Decidable (_ ∧ _))

/-- A number is the character of that number, or no character at all and taken for the null character. -/
theorem ofNat_cases (n : Nat) : (Char.ofNat n).toNat = n ∨ Char.ofNat n = '\x00' := by
  unfold Char.ofNat
  split
  · exact .inl rfl
  · exact .inr rfl

/-- A character that the table and the two special rules leave alone is settled. -/
theorem settled_of_lowerByRuns {c : Char} (table : lowerByRuns c.toNat lowerRuns = c.toNat)
    (noDot : c ≠ '\u0130') : Settled c := by
  refine ⟨?_, ?_⟩
  · rintro rfl
    exact absurd table (by decide +kernel)
  · rw [lowerChar, if_neg noDot, table, Char.ofNat_toNat]

/-- The lower case of a character by the table is settled. -/
theorem settled_ofNat_lowerByRuns {c : Char} (noDot : c ≠ '\u0130') :
    Settled (Char.ofNat (lowerByRuns c.toNat lowerRuns)) := by
  rcases lowerByRuns_cases c.toNat lowerRuns with
    same | ⟨first, last, step, distance, mem, above, below, onStep, moved⟩
  · rw [same, Char.ofNat_toNat]
    exact settled_of_lowerByRuns same noDot
  · have out := List.all_eq_true.1 leadsOut_lowerRuns _ mem
    rw [leadsOut, Bool.and_eq_true, Bool.and_eq_true, decide_eq_true_eq] at out
    obtain ⟨⟨clear, clearDot⟩, positive⟩ := out
    rw [moved]
    have table := lowerByRuns_image positive above below onStep clear
    have dot := lowerByRuns_image positive above below onStep clearDot
    rcases ofNat_cases (c.toNat + distance).toNat with same | null
    · refine settled_of_lowerByRuns (by rw [same, table]) ?_
      intro h
      rw [← same, h] at dot
      exact absurd dot (by decide)
    · rw [null]
      decide +kernel

/-- The lower case of a character outside any word is settled. -/
theorem settled_of_mem_lowerChar {c d : Char} (h : d ∈ lowerChar c) : Settled d := by
  unfold lowerChar at h
  split at h
  · have letter : Settled 'i' := by decide +kernel
    have dot : Settled '\u0307' := by decide +kernel
    rw [List.mem_cons, List.mem_singleton] at h
    rcases h with rfl | rfl
    · exact letter
    · exact dot
  · rename_i noDot
    rw [List.mem_singleton.1 h]
    exact settled_ofNat_lowerByRuns noDot

/-! ## Texts -/

/-- The lower case of a text has only settled characters. -/
theorem settled_of_mem_lowerAfter {inWord : Bool} {cs : List Char} {d : Char} (h : d ∈ lowerAfter inWord cs) :
    Settled d := by
  induction cs generalizing inWord with
  | nil => exact absurd h List.not_mem_nil
  | cons c rest ih =>
    rw [lowerAfter, List.mem_append] at h
    rcases h with here | later
    · split at here
      · have sigmas : Settled '\u03C2' ∧ Settled '\u03C3' := by decide +kernel
        rw [List.mem_singleton] at here
        rw [here]
        split
        · exact sigmas.1
        · exact sigmas.2
      · exact settled_of_mem_lowerChar here
    · exact ih later

/-- A text of settled characters is its own lower case. -/
theorem lowerAfter_of_settled {inWord : Bool} {cs : List Char} (h : ∀ c ∈ cs, Settled c) :
    lowerAfter inWord cs = cs := by
  induction cs generalizing inWord with
  | nil => rfl
  | cons c rest ih =>
    obtain ⟨notSigma, same⟩ := h c List.mem_cons_self
    have later : ∀ d ∈ rest, Settled d := fun d hd => h d (List.mem_cons_of_mem c hd)
    rw [lowerAfter, if_neg notSigma, same, ih later, List.singleton_append]

/-- Lower case is idempotent. -/
@[simp] theorem lower_lower (s : String) : lower (lower s) = lower s := by
  unfold lower
  rw [String.toList_ofList, lowerAfter_of_settled fun _ hc => settled_of_mem_lowerAfter hc]

end CatalogFilter.Text

namespace CatalogFilter

/-- The operators are written in lower case. -/
@[simp] theorem Operator.lower_symbol (op : Operator) : Text.lower op.symbol = op.symbol := by
  rcases op with op | op | op | op | op | op <;> cases op <;> decide +kernel

end CatalogFilter
