import FormCheck.Number.Digits

/-! # Double-precision numbers

A finite double is a sign, a significand below `2 ^ 53` and an exponent of two that is at least
`-1074`; the significand is at least `2 ^ 52` unless the exponent is the least. Numbers are read
from decimal notation by rounding the exact value to the nearest double, ties to even.

A double that is no number equals nothing, itself included, and yet it is found again where it is
looked for as a member. So each has a mark, by which it differs from others that are no number.
-/

namespace FormCheck.Number

/-- An IEEE double: `± significand * 2 ^ exponent`, an infinity, or no number. -/
inductive Double where
  | finite (negative : Bool) (significand : Nat) (exponent : Int)
  | infinite (negative : Bool)
  | nan (mark : Nat)
  deriving DecidableEq, Repr, Inhabited

namespace Double

def leastExponent : Int := -1074

def greatestExponent : Int := 971

def zero (negative : Bool) : Double :=
  .finite negative 0 leastExponent

/-- The double of a rounded significand, which may have carried into the next binade. -/
private def assemble (negative : Bool) (significand : Nat) (exponent : Int) : Double :=
  let (m, q) :=
    if significand = Nat.pow 2 53 then (Nat.pow 2 52, exponent + 1) else (significand, exponent)
  if greatestExponent < q then .infinite negative else .finite negative m q

/-- The quotient `num / (den * 2 ^ q)`, rounded. -/
private def scaled (num den : Nat) (q : Int) : Nat :=
  if 0 ≤ q then divNearestEven num (den * Nat.pow 2 q.toNat)
  else divNearestEven (num * Nat.pow 2 (-q).toNat) den

/-- Whether `num / (den * 2 ^ q)` is below `2 ^ 53`. -/
private def fits (num den : Nat) (q : Int) : Bool :=
  if 0 ≤ q then num < den * Nat.pow 2 q.toNat * Nat.pow 2 53
  else num * Nat.pow 2 (-q).toNat < den * Nat.pow 2 53

def ofRatio (negative : Bool) (num den : Nat) : Double :=
  let guess : Int := (Nat.log2 num : Int) - (Nat.log2 den : Int) - 53
  let q := if fits num den guess then guess else guess + 1
  let q := max q leastExponent
  assemble negative (scaled num den q) q

def ofDecimal (negative : Bool) (coefficient : Nat) (exponent : Int) : Double :=
  if coefficient = 0 then zero negative
  else
    let leading : Int := (width coefficient : Int) + exponent
    if 400 < leading then .infinite negative
    else if leading < -400 then zero negative
    else if 0 ≤ exponent then ofRatio negative (coefficient * Nat.pow 10 exponent.toNat) 1
    else ofRatio negative coefficient (Nat.pow 10 (-exponent).toNat)

def isZero : Double → Bool
  | .finite _ m _ => m == 0
  | _ => false

def negated : Double → Double
  | .finite negative m q => .finite (!negative) m q
  | .infinite negative => .infinite (!negative)
  | .nan mark => .nan mark

/-- A double under a mark of its own, if it is no number. -/
def marked (mark : Nat) : Double → Double
  | .nan _ => .nan mark
  | d => d

end Double

end FormCheck.Number
