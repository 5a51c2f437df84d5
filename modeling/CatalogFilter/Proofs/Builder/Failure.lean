import CatalogFilter.Builder.Session
import CatalogFilter.Proofs.Outcome

/-!
# Calls that fail

* `Builder.settled` — a root that is assigned if there is one to assign, and else stays with the error.
* `Builder.exec_perform` — calls settle the root that `Builder.step` says they lead to.
* `Builder.Invocation.root_of_error` — a call that fails leaves the root as it was.
* `Builder.exec_session` — calls that fail may be left out.

In a call the root is assigned once, behind all that can fail but one: the variant of the root is shown after it was assigned. For
that there is no root missing then.
-/

namespace CatalogFilter.Builder

open Routine Outcome

variable {root : Option Node}

/-! ## One call -/

/-- A root is assigned if there is no error; with an error it stays. -/
def settled (root : Option Node) : Except Error Node → Except Error Unit × Option Node
  | .ok n => (.ok (), some n)
  | .error e => (.error e, root)

@[simp] theorem settled_error (e : Error) : settled root (.error e) = (.error e, root) := rfl

/-- A root that is computed first and assigned then is settled. -/
theorem exec_assign_compute (x : Except Error Node) : (compute x >>= assign).exec root = settled root x := by
  rw [exec_bind, exec_compute]
  cases x <;> rfl

/-- That it is shown then does not fail, for there is one. -/
theorem exec_assign_shown (x : Except Error Node) :
    (do
      assign (← compute x)
      let _ ← shownRoot : Routine Unit).exec root = settled root x := by
  rw [exec_bind, exec_compute]
  cases x <;> rfl

/-- Combining settles the root combined with the expressions. -/
theorem exec_join (k : Connective) (exprs : List Value) :
    (join k exprs).exec root = settled root (liftParse (combine k root exprs)) := by
  unfold join
  rw [exec_bind, exec_get]
  unfold combine
  cases root with
  | none => exact exec_assign_shown _
  | some r =>
    dsimp only
    cases k.children? r with
    | none => exact exec_assign_shown _
    | some children => exact exec_assign_shown _

/-- Adding settles the root with the expression added. -/
theorem exec_insert (v : Value) : (insert v).exec root = settled root (liftParse (addTo root v)) := by
  unfold insert addTo
  cases v.node? with
  | none => rfl
  | some n =>
    cases isExpression : n.isExpression with
    | false => simp [isExpression, ParseError.raised, ParseError.isWorded]
    | true =>
      simp only [isExpression, if_true]
      rw [exec_bind, exec_get]
      cases root with
      | none => rfl
      | some r => exact exec_join .and [v]

/-- A call settles the root that it leads to. -/
theorem exec_perform (c : Call) : (perform c).exec root = settled root (step root c) := by
  cases c with
  | add v => exact exec_insert v
  | and exprs => exact exec_join .and exprs
  | or exprs => exact exec_join .or exprs
  | not expr => exact exec_assign_compute _
  | predicate factory args =>
    rw [perform, exec_bind, exec_compute, step]
    cases factory.call args with
    | error e => rfl
    | ok n => exact exec_insert (.ofNode n)

/-- A method settles the root that its call leads to, if it has one, and returns what it returns for the root that is left. -/
theorem Invocation.exec_perform (i : Invocation) :
    i.perform.exec root =
      match i.call? with
      | .error e => (.error e, root)
      | .ok none => (.ok (i.method.result root), root)
      | .ok (some c) =>
        match step root c with
        | .error e => (.error e, root)
        | .ok n => (.ok (i.method.result (some n)), some n) := by
  rw [Invocation.perform, exec_bind, exec_compute]
  cases i.call? with
  | error e => rfl
  | ok call =>
    cases call with
    | none => rfl
    | some c =>
      dsimp only
      rw [exec_bind, Builder.exec_perform]
      cases step root c <;> rfl

/-- A call that fails leaves the root as it was: its arguments do not fit the method, or no node can be built from them, or
what is to be joined with the root is no expression. -/
theorem Invocation.root_of_error {i : Invocation} {root' : Option Node} {e : Error}
    (failed : i.perform.exec root = (.error e, root')) : root' = root := by
  rw [Invocation.exec_perform] at failed
  split at failed
  · cases failed
    rfl
  · cases failed
  · split at failed
    · cases failed
      rfl
    · cases failed

/-! ## Sequences -/

/-- A session goes on after its first call, with the root that this leaves. -/
theorem exec_session_cons (i : Invocation) (rest : List Invocation) :
    (session (i :: rest)).exec root = (session rest).exec (i.perform.exec root).2 := by
  rw [session, exec_bind, exec_catching]

/-- A program goes on after its first call if that does not fail. -/
theorem exec_program_cons_of_ok {i : Invocation} {rest : List Invocation} {r : Result} {root' : Option Node}
    (done : i.perform.exec root = (.ok r, root')) :
    (program (i :: rest)).exec root = (program rest).exec root' := by
  rw [program, exec_bind, done]

/-- Calls that fail leave no trace: a session ends without an error, and it ends as the calls that do not fail end in a program,
where none of them fails. -/
theorem session_eq_program (calls : List Invocation) (root : Option Node) :
    (session calls).exec root = (program (succeeding root calls)).exec root ∧
      ((session calls).exec root).1 = .ok () := by
  induction calls generalizing root with
  | nil => exact ⟨rfl, rfl⟩
  | cons i rest ih =>
    rw [exec_session_cons, succeeding]
    rcases outcome : i.perform.exec root with ⟨e | r, root'⟩
    · have same : root' = root := i.root_of_error outcome
      subst same
      exact ih root'
    · dsimp only
      rw [exec_program_cons_of_ok outcome]
      exact ih root'

/-- Calls do what `after` says of them. A call that fails leaves the root as it was, whatever the method and its arguments are. So
the calls that fail in a session, where errors are caught, may be left out: the others do not fail in a program, and it ends
with the same root. -/
theorem exec_session :
    (∀ (c : Call) (b : Builder), ((perform c).exec b.root).2 = (b.after c).root) ∧
    (∀ (i : Invocation) (root root' : Option Node) (e : Error),
      i.perform.exec root = (.error e, root') → root' = root) ∧
    (∀ (calls : List Invocation) (root : Option Node), ∃ root' : Option Node,
      (session calls).exec root = (.ok (), root') ∧ (program (succeeding root calls)).exec root = (.ok (), root')) := by
  refine ⟨?_, ?_, ?_⟩
  · intro c b
    rw [exec_perform, after]
    cases step b.root c <;> rfl
  · intro i root root' e failed
    exact i.root_of_error failed
  · intro calls root
    obtain ⟨same, ends⟩ := session_eq_program calls root
    refine ⟨((session calls).exec root).2, Prod.ext ends rfl, ?_⟩
    rw [← same]
    exact Prod.ext ends rfl

/-- A text cannot be joined with a root, which stays. -/
theorem exec_session_text :
    let i : Invocation := ⟨.and, ⟨[.str "title"], []⟩⟩
    let root : Option Node := some (.isNull ⟨"title"⟩)
    ∃ e, (i.perform.exec root).1 = .error e ∧ (i.perform.exec root).2 = root := by
  intro i root
  have refused : (i.perform.exec root).1 = .error (.parse (.shape "and" (.notNode "children" "str"))) := rfl
  exact ⟨_, refused, exec_session.2.1 i root _ _ (Prod.ext refused rfl)⟩

end CatalogFilter.Builder
