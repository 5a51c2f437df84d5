import CatalogFilter.Proofs.Outcome

/-!
# How outcomes end

* `Outcome.EndsBy` — an outcome fails by the first of some faults, and succeeds if there are none.
* `Outcome.EndsBy.bind`, `Outcome.EndsBy.mapM` — the faults of steps in a row are those of each, in order.
* `Outcome.Decides` — an outcome succeeds just if a condition holds, and fails by an error of a kind if not.
* `Outcome.Decides.bind`, `Outcome.Decides.mapM` — steps in a row decide whether the conditions of all of them hold.
-/

namespace CatalogFilter.Outcome

variable {ε α β : Type}

/-- Whether an outcome fails by the first of some faults, or succeeds if there are none. -/
def EndsBy (x : Except ε α) : List ε → Prop
  | [] => ∃ a, x = .ok a
  | e :: _ => x = .error e

namespace EndsBy

variable {x : Except ε α} {es fs : List ε}

theorem ok (a : α) : EndsBy (.ok a : Except ε α) [] :=
  ⟨a, rfl⟩

theorem error (e : ε) (es : List ε) : EndsBy (.error e : Except ε α) (e :: es) :=
  rfl

/-- A success and no fault are the same. -/
theorem exists_ok_iff (h : EndsBy x es) : (∃ a, x = .ok a) ↔ es = [] := by
  cases es with
  | nil => exact iff_of_true h rfl
  | cons e es =>
    refine iff_of_false ?_ (List.cons_ne_nil e es)
    rintro ⟨a, success⟩
    cases success.symm.trans h

/-- The second of two steps has its faults behind those of the first. -/
theorem bind {f : α → Except ε β} (first : EndsBy x es) (rest : ∀ a, EndsBy (f a) fs) : EndsBy (x >>= f) (es ++ fs) := by
  cases es with
  | nil =>
    obtain ⟨a, rfl⟩ := first
    exact rest a
  | cons e es =>
    cases first
    exact error e (es ++ fs)

/-- A last step that cannot fail adds no fault. -/
theorem bind_ok {g : α → β} (first : EndsBy x es) : EndsBy (x >>= fun a => .ok (g a)) es := by
  have steps := first.bind fun a => ok (g a)
  rwa [List.append_nil] at steps

/-- A result that is only passed on keeps its faults. -/
theorem map {g : α → β} (h : EndsBy x es) : EndsBy (x.map g) es := by
  cases es with
  | nil =>
    obtain ⟨a, rfl⟩ := h
    exact ok (g a)
  | cons e es =>
    cases h
    exact error e es

/-- The steps for the items of a list have the faults of each, item by item. -/
theorem mapM {f : α → Except ε β} {faults : α → List ε} {xs : List α} (each : ∀ x ∈ xs, EndsBy (f x) (faults x)) :
    EndsBy (xs.mapM f) (xs.flatMap faults) := by
  induction xs with
  | nil => exact ok []
  | cons x xs ih =>
    rw [List.mapM_cons, List.flatMap_cons]
    have others := ih fun y member => each y (List.mem_cons_of_mem x member)
    exact (each x List.mem_cons_self).bind fun _ => others.bind_ok

end EndsBy

/-- Whether an outcome succeeds just if a condition holds, and otherwise fails by an error of some kind. -/
def Decides (x : Except ε α) (condition : Prop) (kind : ε → Prop) : Prop :=
  match x with
  | .ok _ => condition
  | .error e => ¬ condition ∧ kind e

namespace Decides

variable {x : Except ε α} {p q : Prop} {kind : ε → Prop}

theorem ok (a : α) (h : p) : Decides (.ok a) p kind := h

theorem error {e : ε} (fails : ¬ p) (known : kind e) : Decides (.error e : Except ε α) p kind := ⟨fails, known⟩

/-- A success and the condition are the same. -/
theorem exists_ok_iff (h : Decides x p kind) : (∃ a, x = .ok a) ↔ p := by
  cases x with
  | ok a => exact iff_of_true ⟨a, rfl⟩ h
  | error e => exact iff_of_false nofun h.1

/-- An error is of the kind. -/
theorem of_error {e : ε} (h : Decides x p kind) (failed : x = .error e) : kind e := by
  subst failed
  exact h.2

/-- The condition in other words. -/
theorem congr (h : Decides x p kind) (same : p ↔ q) : Decides x q kind :=
  propext same ▸ h

/-- A wider kind of errors. -/
theorem imp {kind' : ε → Prop} (h : Decides x p kind) (implies : ∀ e, kind e → kind' e) : Decides x p kind' := by
  cases x with
  | ok a => exact h
  | error e => exact ⟨h.1, implies e h.2⟩

/-- A result that is only passed on decides the same. -/
theorem map {g : α → β} (h : Decides x p kind) : Decides (x.map g) p kind := by
  cases x with
  | ok a => exact h
  | error e => exact h

/-- Two steps decide whether the conditions of both hold. -/
theorem bind {f : α → Except ε β} (first : Decides x p kind) (rest : ∀ a, Decides (f a) q kind) :
    Decides (x >>= f) (p ∧ q) kind := by
  cases x with
  | ok a => exact (rest a).congr (and_iff_right first).symm
  | error e => exact error (mt And.left first.1) first.2

/-- The steps for the items of a list decide whether the condition of each item holds. -/
theorem mapM {f : α → Except ε β} {condition : α → Prop} {xs : List α}
    (each : ∀ x ∈ xs, Decides (f x) (condition x) kind) : Decides (xs.mapM f) (∀ x ∈ xs, condition x) kind := by
  induction xs with
  | nil => exact ok [] nofun
  | cons x xs ih =>
    rw [List.mapM_cons]
    have others := ih fun y member => each y (List.mem_cons_of_mem x member)
    have steps := (each x List.mem_cons_self).bind fun y => others.map (g := (y :: ·))
    exact steps.congr List.forall_mem_cons.symm

end Decides

end CatalogFilter.Outcome
