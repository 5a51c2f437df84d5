/-! # Beginnings of texts

* `Text.dropStart?`: what follows a given beginning.
* `Text.dropStart?_eq_some_iff`: it is the rest of a text that begins so. -/

namespace CatalogFilter.Text

/-- The rest of a text that has the given beginning. -/
def dropStart? : List Char → List Char → Option (List Char)
  | [], cs => some cs
  | _ :: _, [] => none
  | s :: start, c :: cs => if s = c then dropStart? start cs else none

theorem dropStart?_eq_some_iff (start cs rest : List Char) :
    dropStart? start cs = some rest ↔ cs = start ++ rest := by
  induction start generalizing cs with
  | nil => simp [dropStart?]
  | cons s start ih =>
    cases cs with
    | nil => simp [dropStart?]
    | cons c cs =>
      unfold dropStart?
      split
      · rename_i h
        rw [ih, h, List.cons_append, List.cons.injEq]
        simp
      · rename_i h
        simp only [reduceCtorEq, false_iff, List.cons_append, List.cons.injEq, not_and]
        exact fun hc => absurd hc.symm h

end CatalogFilter.Text
