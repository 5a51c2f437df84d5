import Mathlib

/-!
# Runs of characters

* `Text.Stops` — a text does not go on with a character of a class.
* `Text.takeWhile_run`, `Text.dropWhile_run` — a run of characters of a class is taken whole, and what is left is what
  stood behind it.
* `Text.run_append_inj` — a text falls into a run and the rest in one way only.
-/

namespace CatalogFilter.Text

variable {p : Char → Bool} {run run' rest rest' : List Char}

/-- Whether a text does not begin with a character of a class. -/
def Stops (p : Char → Bool) (rest : List Char) : Prop :=
  ∀ c ∈ rest.head?, p c = false

@[simp] theorem stops_nil (p : Char → Bool) : Stops p [] := nofun

@[simp] theorem stops_cons {c : Char} : Stops p (c :: rest) ↔ p c = false := by
  simp [Stops]

/-- A run is taken whole. -/
theorem takeWhile_run (h : ∀ c ∈ run, p c = true) (stop : Stops p rest) : (run ++ rest).takeWhile p = run := by
  rw [List.takeWhile_append_of_pos h]
  cases rest with
  | nil => simp
  | cons c rest => simp [stops_cons.1 stop]

/-- What is left behind a run is what stood behind it. -/
theorem dropWhile_run (h : ∀ c ∈ run, p c = true) (stop : Stops p rest) : (run ++ rest).dropWhile p = rest := by
  rw [List.dropWhile_append_of_pos h]
  cases rest with
  | nil => rfl
  | cons c rest => simp [stops_cons.1 stop]

/-- A text falls into a run and what stands behind it in one way only. -/
theorem run_append_inj (h : ∀ c ∈ run, p c = true) (h' : ∀ c ∈ run', p c = true) (stop : Stops p rest)
    (stop' : Stops p rest') (same : run ++ rest = run' ++ rest') : run = run' ∧ rest = rest' := by
  constructor
  · rw [← takeWhile_run h stop, same, takeWhile_run h' stop']
  · rw [← dropWhile_run h stop, same, dropWhile_run h' stop']

end CatalogFilter.Text
