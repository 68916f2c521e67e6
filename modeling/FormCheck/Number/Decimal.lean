import FormCheck.Number.Digits
import FormCheck.Text.Blank
import FormCheck.Text.Digit

/-! # Decimal numbers

A decimal keeps the coefficient and exponent it was written with, so `1.50` and `1.5` are
different decimals of equal value. Besides the infinities there are quiet and signalling values
that are no number, each with a sign, a diagnostic payload, and a mark as doubles have one.
-/

namespace FormCheck.Number

/-- A decimal number as written: `± coefficient * 10 ^ exponent`, an infinity, or no number. -/
inductive Decimal where
  | finite (negative : Bool) (coefficient : Nat) (exponent : Int)
  | infinite (negative : Bool)
  | nan (negative signalling : Bool) (payload mark : Nat)
  deriving DecidableEq, Repr, Inhabited

namespace Decimal

def ofInt (i : Int) : Decimal :=
  .finite (i < 0) i.natAbs 0

def isNan : Decimal → Bool
  | .nan .. => true
  | _ => false

def isSignalling : Decimal → Bool
  | .nan _ signalling .. => signalling
  | _ => false

def isZero : Decimal → Bool
  | .finite _ c _ => c == 0
  | _ => false

/-- The exponent of the leading digit. -/
def adjusted (coefficient : Nat) (exponent : Int) : Int :=
  exponent + width coefficient - 1

def greatestExponent : Int := 999999999999999999

def leastExponent : Int := -1999999999999999997

def inRange (coefficient : Nat) (exponent : Int) : Bool :=
  leastExponent ≤ exponent &&
    (if coefficient = 0 then exponent ≤ greatestExponent
     else adjusted coefficient exponent ≤ greatestExponent)

/-- The text of a decimal: positional while the exponent is at most zero and at most five zeros
follow the point, scientific otherwise. -/
def text : Decimal → String
  | .infinite negative => if negative then "-Infinity" else "Infinity"
  | .nan negative signalling payload _ =>
    (if negative then "-" else "") ++ (if signalling then "sNaN" else "NaN") ++
      (if payload = 0 then "" else String.ofList (digits payload))
  | .finite negative c e =>
    let ds := digits c
    let place : Int := ds.length + e
    let body :=
      if e ≤ 0 ∧ -6 < place then
        if e = 0 then String.ofList ds
        else if place ≤ 0 then "0." ++ String.ofList (List.replicate (-place).toNat '0' ++ ds)
        else String.ofList (ds.take place.toNat) ++ "." ++ String.ofList (ds.drop place.toNat)
      else
        let mantissa := match ds with
          | d :: r :: rs => String.ofList (d :: '.' :: r :: rs)
          | _ => String.ofList ds
        let power := place - 1
        mantissa ++ "E" ++ (if power < 0 then "-" else "+") ++ String.ofList (digits power.natAbs)
    (if negative then "-" else "") ++ body

end Decimal

end FormCheck.Number
