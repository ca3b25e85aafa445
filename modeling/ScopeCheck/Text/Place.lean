/-!
# ScopeCheck.Text.Place

Places in a text, and reading a text character by character with the place kept.
-/

namespace ScopeCheck

/-- A place in a text. Rows and columns count from 0, and a column counts bytes. -/
structure Place where
  byte : Nat := 0
  row : Nat := 0
  /-- The bytes between the last line feed and the place. -/
  column : Nat := 0
  deriving DecidableEq, Repr, Inhabited

def Place.after (place : Place) (c : Char) : Place :=
  if c = '\n' then ⟨place.byte + 1, place.row + 1, 0⟩
  else ⟨place.byte + c.utf8Size, place.row, place.column + c.utf8Size⟩

/-- A place in a text together with the text from there on. -/
structure Spot where
  place : Place := {}
  rest : List Char
  deriving Inhabited

namespace Spot

def start (text : List Char) : Spot := { rest := text }

def atEnd (spot : Spot) : Bool := spot.rest.isEmpty

/-- The character at a spot. A text reads as if it were followed by null characters. -/
def peek (spot : Spot) : Char :=
  match spot.rest with
  | [] => '\x00'
  | c :: _ => c

/-- The spot after the next character, or the same spot at the end of the text. -/
def next (spot : Spot) : Spot :=
  match spot.rest with
  | [] => spot
  | c :: rest => ⟨spot.place.after c, rest⟩

/-- Going on never adds to the text that is left. -/
theorem next_length_le (spot : Spot) : spot.next.rest.length ≤ spot.rest.length := by
  obtain ⟨place, rest⟩ := spot
  cases rest <;> simp [next]

/-- Going on from a character takes it from the text that is left. -/
theorem next_length_lt {spot : Spot} (h : spot.rest ≠ []) :
    spot.next.rest.length < spot.rest.length := by
  obtain ⟨place, rest⟩ := spot
  cases rest with
  | nil => exact absurd rfl h
  | cons c rest => simp [next]

def advance : Nat → Spot → Spot
  | 0, spot => spot
  | count + 1, spot => advance count spot.next

/-- The first spot, from a place on, at a character that does not satisfy a condition. -/
def skipFrom (condition : Char → Bool) (place : Place) : List Char → Spot
  | [] => ⟨place, []⟩
  | c :: rest => if condition c then skipFrom condition (place.after c) rest else ⟨place, c :: rest⟩

/-- Skipping never adds to the text that is left. -/
theorem skipFrom_length_le (condition : Char → Bool) (place : Place) (text : List Char) :
    (skipFrom condition place text).rest.length ≤ text.length := by
  induction text generalizing place with
  | nil => simp [skipFrom]
  | cons c rest ih =>
    rw [skipFrom]
    split
    · exact Nat.le_trans (ih _) (Nat.le_succ _)
    · exact Nat.le_refl _

/-- The first spot at a character that does not satisfy a condition. -/
def skipWhile (condition : Char → Bool) (spot : Spot) : Spot :=
  skipFrom condition spot.place spot.rest

end Spot

end ScopeCheck
