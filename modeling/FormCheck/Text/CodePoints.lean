/-! # Sets of code points

A property of characters is stored as the increasing list of code points at which membership
changes, so a character has the property exactly when an odd number of changes are at or below it.
-/

namespace FormCheck.Text

/-- A set of code points, given by where membership changes. -/
structure CodePoints where
  changes : List Nat

def CodePoints.has (s : CodePoints) (code : Nat) : Bool :=
  (s.changes.takeWhile (· ≤ code)).length % 2 == 1

def CodePoints.contains (s : CodePoints) (c : Char) : Bool :=
  s.has c.toNat

end FormCheck.Text
