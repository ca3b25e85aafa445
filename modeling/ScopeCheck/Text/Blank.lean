/-!
# ScopeCheck.Text.Blank

The characters that Unicode calls white space (property `White_Space`).
-/

namespace ScopeCheck.Text

/-- The ranges of code points that have the property `White_Space`, ends included. -/
def blankRanges : List (Nat × Nat) :=
  [(0x09, 0x0D), (0x20, 0x20), (0x85, 0x85), (0xA0, 0xA0), (0x1680, 0x1680), (0x2000, 0x200A),
   (0x2028, 0x2029), (0x202F, 0x202F), (0x205F, 0x205F), (0x3000, 0x3000)]

/-- A character is blank when Unicode gives it the property `White_Space`. -/
def isBlank (c : Char) : Bool :=
  blankRanges.any fun range => range.1 ≤ c.toNat && c.toNat ≤ range.2

/-- Whether the last character of a line is blank; an empty line has none. -/
def endsBlank (line : String) : Bool :=
  line.toList.getLast?.any isBlank

end ScopeCheck.Text
