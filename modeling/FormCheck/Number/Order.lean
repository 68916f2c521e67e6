import FormCheck.Number.Double
import FormCheck.Number.Decimal

/-! # Comparing numbers of different kinds

Integers, doubles and decimals are compared by exact value. A double that is no number is
unordered with every integer and double; a comparison of a decimal with anything that is no number
has no answer at all, and neither has the equality test of a signalling decimal.
-/

namespace FormCheck.Number

inductive Numeral where
  | int (i : Int)
  | double (d : Double)
  | decimal (d : Decimal)
  deriving DecidableEq, Repr, Inhabited

inductive Comparison where
  | ordered (o : Ordering)
  | unordered
  | signals
  deriving DecidableEq, Repr, Inhabited

/-- The order of `c₁ * 10 ^ e₁` and `c₂ * 10 ^ e₂`, where the places of the leading digits decide
before any power of ten is formed. -/
def compareMagnitude (c₁ : Nat) (e₁ : Int) (c₂ : Nat) (e₂ : Int) : Ordering :=
  if c₁ = 0 then (if c₂ = 0 then .eq else .lt)
  else if c₂ = 0 then .gt
  else
    let p₁ := (width c₁ : Int) + e₁
    let p₂ := (width c₂ : Int) + e₂
    if p₁ < p₂ then .lt
    else if p₂ < p₁ then .gt
    else compare (c₁ * Nat.pow 10 (e₁ - e₂).toNat) (c₂ * Nat.pow 10 (e₂ - e₁).toNat)

namespace Decimal

def order? : Decimal → Decimal → Option Ordering
  | .nan .., _ => none
  | _, .nan .. => none
  | .infinite a, .infinite b => some (compare b a)
  | .infinite a, .finite .. => some (if a then .lt else .gt)
  | .finite .., .infinite b => some (if b then .gt else .lt)
  | .finite a c₁ e₁, .finite b c₂ e₂ =>
    if c₁ = 0 ∧ c₂ = 0 then some .eq
    else match a, b with
      | false, false => some (compareMagnitude c₁ e₁ c₂ e₂)
      | true, true => some (compareMagnitude c₂ e₂ c₁ e₁)
      | false, true => some .gt
      | true, false => some .lt

end Decimal

/-- The decimal of the same value as a double: a negative power of two is a power of five over a
power of ten. -/
def Double.toDecimal : Double → Decimal
  | .nan mark => .nan false false 0 mark
  | .infinite negative => .infinite negative
  | .finite negative m e =>
    if 0 ≤ e then .finite negative (m * Nat.pow 2 e.toNat) 0
    else .finite negative (m * Nat.pow 5 (-e).toNat) e

namespace Numeral

def toDecimal : Numeral → Decimal
  | .int i => .ofInt i
  | .double d => d.toDecimal
  | .decimal d => d

def isDecimal : Numeral → Bool
  | .decimal _ => true
  | _ => false

def compare (a b : Numeral) : Comparison :=
  match a.toDecimal.order? b.toDecimal with
  | some o => .ordered o
  | none => if a.isDecimal || b.isDecimal then .signals else .unordered

/-- Whether two numbers are equal; nothing if a signalling decimal takes part. -/
def equal? (a b : Numeral) : Option Bool :=
  if a.toDecimal.isSignalling || b.toDecimal.isSignalling then none
  else some (a.toDecimal.order? b.toDecimal == some .eq)

end Numeral

end FormCheck.Number
