/-! # Blank characters

* `Text.isBlank`: spaces and separators of Unicode 14, with the ASCII control characters that separate.
* `Text.strip`: a text without the blanks at both ends. -/

namespace CatalogFilter.Text

/-- The blank characters. -/
def blanks : List Nat :=
  [0x9, 0xA, 0xB, 0xC, 0xD, 0x1C, 0x1D, 0x1E, 0x1F, 0x20, 0x85, 0xA0, 0x1680, 0x2000, 0x2001, 0x2002,
    0x2003, 0x2004, 0x2005, 0x2006, 0x2007, 0x2008, 0x2009, 0x200A, 0x2028, 0x2029, 0x202F, 0x205F, 0x3000]

/-- Whether a character is blank. -/
def isBlank (c : Char) : Bool :=
  blanks.contains c.toNat

/-- A list of characters without the blanks at both ends. -/
def stripList (cs : List Char) : List Char :=
  ((cs.dropWhile isBlank).reverse.dropWhile isBlank).reverse

/-- A text without the blanks at both ends. -/
def strip (s : String) : String :=
  String.ofList (stripList s.toList)

@[simp] theorem stripList_nil : stripList [] = [] := rfl

end CatalogFilter.Text
