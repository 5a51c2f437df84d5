import Mathlib

/-!
# Outcomes that succeed, and outcomes that fail

* `Outcome.bind_eq_ok`, `Outcome.map_eq_ok`, `Outcome.mapError_eq_ok` — a compound outcome is a success exactly
  when its parts are.
* `Outcome.map_eq_error`, `Outcome.mapError_eq_error` — an outcome that is passed on fails as it failed before.
* `Outcome.mapM_eq_ok`, `Outcome.mapM_congr` — a list of outcomes is a success exactly when each of them is, and the same as
  another if it is so item by item.
* `Outcome.exists_forall₂` — what there is for each item there is for the list.
-/

namespace CatalogFilter.Outcome

variable {ε δ α β : Type}

/-- Two steps succeed exactly when both do. -/
theorem bind_eq_ok {x : Except ε α} {f : α → Except ε β} {b : β} :
    x >>= f = .ok b ↔ ∃ a, x = .ok a ∧ f a = .ok b := by
  cases x with
  | error e => simp [bind, Except.bind]
  | ok a => simp [bind, Except.bind]

/-- A result that is only passed on succeeds exactly when the result is there. -/
theorem map_eq_ok {x : Except ε α} {f : α → β} {b : β} : x.map f = .ok b ↔ ∃ a, x = .ok a ∧ f a = b := by
  cases x with
  | error e => simp [Except.map]
  | ok a => simp [Except.map]

/-- What is passed on tells what was there, if no two results become one. -/
theorem map_injective {f : α → β} (inj : ∀ a b, f a = f b → a = b) {x y : Except ε α} (same : x.map f = y.map f) :
    x = y := by
  cases x with
  | error e =>
    cases y with
    | error e' => exact congrArg Except.error (Except.error.inj same)
    | ok b => cases same
  | ok a =>
    cases y with
    | error e' => cases same
    | ok b => exact congrArg Except.ok (inj a b (Except.ok.inj same))

/-- Other words for an error make no success. -/
theorem mapError_eq_ok {x : Except ε α} {f : ε → δ} {a : α} : x.mapError f = .ok a ↔ x = .ok a := by
  cases x with
  | error e => simp [Except.mapError]
  | ok a => simp [Except.mapError]

/-- After a success comes the next step. -/
theorem ok_bind (a : α) (f : α → Except ε β) : Except.ok a >>= f = f a := rfl

/-- A result that is only passed on fails as it did before. -/
theorem map_eq_error {x : Except ε α} {f : α → β} {e : ε} : x.map f = .error e ↔ x = .error e := by
  cases x with
  | error e' => simp [Except.map]
  | ok a => simp [Except.map]

/-- Other words for an error are words for the error that was there. -/
theorem mapError_eq_error {x : Except ε α} {f : ε → δ} {e : δ} :
    x.mapError f = .error e ↔ ∃ e', x = .error e' ∧ f e' = e := by
  cases x with
  | error e' => simp [Except.mapError]
  | ok a => simp [Except.mapError]

/-- Items succeed together exactly when each of them does. -/
theorem mapM_eq_ok {f : α → Except ε β} {xs : List α} {ys : List β} :
    xs.mapM f = .ok ys ↔ List.Forall₂ (fun x y => f x = .ok y) xs ys := by
  induction xs generalizing ys with
  | nil =>
    rw [List.mapM_nil, List.forall₂_nil_left_iff]
    exact ⟨fun h => (Except.ok.inj h).symm, fun h => congrArg Except.ok h.symm⟩
  | cons x xs ih =>
    rw [List.mapM_cons, bind_eq_ok, List.forall₂_cons_left_iff]
    constructor
    · rintro ⟨y, hy, hys⟩
      obtain ⟨rest, hrest, h⟩ := bind_eq_ok.1 hys
      exact ⟨y, rest, hy, ih.1 hrest, (Except.ok.inj h).symm⟩
    · rintro ⟨y, rest, hy, hrest, rfl⟩
      exact ⟨y, hy, bind_eq_ok.2 ⟨rest, ih.2 hrest, rfl⟩⟩

/-- Items whose outcomes are the same pair by pair have the same outcome together. -/
theorem mapM_congr {f g : α → Except ε β} {xs ys : List α} (count : xs.length = ys.length)
    (each : ∀ pair ∈ xs.zip ys, f pair.1 = g pair.2) : xs.mapM f = ys.mapM g := by
  induction xs generalizing ys with
  | nil =>
    rw [List.length_eq_zero_iff.1 count.symm]
    rfl
  | cons x xs ih =>
    cases ys with
    | nil => cases count
    | cons y ys =>
      rw [List.zip_cons_cons, List.forall_mem_cons] at each
      rw [List.mapM_cons, List.mapM_cons, each.1, ih (Nat.succ.inj count) each.2]

/-- Values that each have a related one have related ones together. -/
theorem exists_forall₂ {R : α → β → Prop} {xs : List α} (h : ∀ x ∈ xs, ∃ y, R x y) : ∃ ys, List.Forall₂ R xs ys := by
  induction xs with
  | nil => exact ⟨[], .nil⟩
  | cons x xs ih =>
    obtain ⟨y, first⟩ := h x List.mem_cons_self
    obtain ⟨ys, others⟩ := ih fun z member => h z (List.mem_cons_of_mem x member)
    exact ⟨y :: ys, .cons first others⟩

/-- Each of the values on the right of a row of related ones has one on the left. -/
theorem exists_of_mem_right {R : α → β → Prop} {xs : List α} {ys : List β} (h : List.Forall₂ R xs ys) :
    ∀ y ∈ ys, ∃ x ∈ xs, R x y := by
  induction h with
  | nil => exact nofun
  | @cons x y xs ys first _ ih =>
    intro z member
    rcases List.mem_cons.1 member with rfl | member
    · exact ⟨x, List.mem_cons_self, first⟩
    · obtain ⟨w, among, related⟩ := ih z member
      exact ⟨w, List.mem_cons_of_mem x among, related⟩

end CatalogFilter.Outcome
