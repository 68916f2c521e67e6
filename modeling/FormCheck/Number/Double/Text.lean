import FormCheck.Number.Double

/-! # The shortest text of a double

A double is written with the fewest significant digits that read back as the same double, and of
those the ones nearest to its value. The layout is positional when the leading digit stands
between the fourth place after the point and the sixteenth before it, and scientific otherwise.
-/

namespace FormCheck.Number.Double

/-- The position of the leading digit of a positive quotient:
`10 ^ (p - 1) ≤ num / den < 10 ^ p`. -/
def leadingPlace (num den : Nat) : Int :=
  if den ≤ num then width (num / den)
  else
    let l := width (den / num)
    if num * Nat.pow 10 (l - 1) = den then 2 - (l : Int) else 1 - (l : Int)

/-- Four times the ends of the interval of reals that round to a double, over a common
denominator, and whether the ends belong to it. -/
structure Rounding where
  low : Nat
  value : Nat
  high : Nat
  denominator : Nat
  closed : Bool

def rounding (significand : Nat) (exponent : Int) : Rounding :=
  let below := if significand = Nat.pow 2 52 ∧ leastExponent < exponent then 1 else 2
  let up := Nat.pow 2 exponent.toNat
  { low := (4 * significand - below) * up
    value := 4 * significand * up
    high := (4 * significand + 2) * up
    denominator := 4 * Nat.pow 2 (-exponent).toNat
    closed := significand % 2 == 0 }

def Rounding.holds (r : Rounding) (n : Nat) (e : Int) : Bool :=
  let point := n * Nat.pow 10 e.toNat * r.denominator
  let unit := Nat.pow 10 (-e).toNat
  if r.closed then r.low * unit ≤ point && point ≤ r.high * unit
  else r.low * unit < point && point < r.high * unit

/-- The neighbour of the value on the grid of multiples of `10 ^ e` that rounds to the double, if
any; of two the nearer, and the even one on a tie. -/
def Rounding.onGrid (r : Rounding) (e : Int) : Option Nat :=
  let num := r.value * Nat.pow 10 (-e).toNat
  let den := r.denominator * Nat.pow 10 e.toNat
  let n := num / den
  match r.holds n e, r.holds (n + 1) e with
  | false, false => none
  | true, false => some n
  | false, true => some (n + 1)
  | true, true => some (divNearestEven num den)

def shortest (significand : Nat) (exponent : Int) : Nat × Int :=
  let r := rounding significand exponent
  let place := leadingPlace r.value r.denominator
  let found := (List.range 17).findSome? fun k =>
    let e := place - (k + 1 : Nat)
    (r.onGrid e).map fun n => (n, e)
  found.getD (significand, exponent)

def dropZeros (ds : List Char) : List Char :=
  (ds.reverse.dropWhile (· == '0')).reverse

def layout (ds : List Char) (p : Int) : String :=
  let n : Int := ds.length
  if -4 < p ∧ p ≤ 16 then
    if p ≤ 0 then "0." ++ String.ofList (List.replicate (-p).toNat '0' ++ ds)
    else if n ≤ p then String.ofList (ds ++ List.replicate (p - n).toNat '0') ++ ".0"
    else String.ofList (ds.take p.toNat) ++ "." ++ String.ofList (ds.drop p.toNat)
  else
    let e := p - 1
    let mantissa := match ds with
      | d :: r :: rs => String.ofList (d :: '.' :: r :: rs)
      | _ => String.ofList ds
    let places := String.ofList (digits e.natAbs)
    mantissa ++ "e" ++ (if e < 0 then "-" else "+") ++ (if e.natAbs < 10 then "0" else "") ++ places

def text : Double → String
  | .nan _ => "nan"
  | .infinite negative => if negative then "-inf" else "inf"
  | .finite negative m e =>
    let sign := if negative then "-" else ""
    if m = 0 then sign ++ "0.0"
    else
      let (n, e10) := shortest m e
      let all := digits n
      sign ++ layout (dropZeros all) (all.length + e10)

end FormCheck.Number.Double
