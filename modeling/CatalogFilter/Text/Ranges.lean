/-! # Character classes given by ranges

* `Text.inRanges`: whether a code point lies in one of a sorted list of closed ranges. -/

namespace CatalogFilter.Text

/-- Whether `c` lies in one of the ranges, which are in ascending order. -/
def inRanges (c : Nat) : List (Nat × Nat) → Bool
  | [] => false
  | (first, last) :: rest =>
    if c < first then false
    else if c ≤ last then true
    else inRanges c rest

end CatalogFilter.Text
