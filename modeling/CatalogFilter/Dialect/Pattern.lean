import CatalogFilter.Error

/-! # Patterns

* `Pattern.toWildcard`: a LIKE pattern as a wildcard pattern. A percent sign becomes a star and an underscore a
  question mark; behind a backslash both, and a backslash, stand for themselves. -/

namespace CatalogFilter.Pattern

/-- Whether a character may stand behind a backslash. -/
def isEscapable (c : Char) : Bool :=
  c = '%' || c = '_' || c = '\\'

/-- The wildcard that an unescaped character stands for; most characters stand for themselves. -/
def wildcard (c : Char) : Char :=
  if c = '%' then '*' else if c = '_' then '?' else c

/-- The characters of the wildcard pattern, or the first wrong escape. -/
def wildcards : List Char → Except ShapeFault (List Char)
  | [] => .ok []
  | '\\' :: [] => .error .openEscape
  | '\\' :: c :: rest =>
    if isEscapable c then (wildcards rest).map (c :: ·) else .error (.badEscape c)
  | c :: rest => (wildcards rest).map (wildcard c :: ·)

/-- The wildcard pattern of a LIKE pattern. -/
def toWildcard (pattern : String) : Except ParseError String :=
  match wildcards pattern.toList with
  | .ok cs => .ok (String.ofList cs)
  | .error fault => .error (.shape "like" fault)

@[simp] theorem wildcards_nil : wildcards [] = .ok [] := rfl

theorem wildcards_open : wildcards ['\\'] = .error .openEscape := rfl

theorem wildcards_cons {c : Char} (h : c ≠ '\\') (rest : List Char) :
    wildcards (c :: rest) = (wildcards rest).map (wildcard c :: ·) := by
  rw [wildcards]
  · rintro rfl
    exact absurd rfl h
  · intro d ds hc
    exact absurd hc h

end CatalogFilter.Pattern
