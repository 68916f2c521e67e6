import FormCheck.Json.Reader
import FormCheck.Number.Double
import FormCheck.Number.Order
import FormCheck.Text.Blank
import FormCheck.Text.Digit
import FormCheck.Text.Lower
import FormCheck.Yaml.Flaw
import FormCheck.Yaml.Plain

/-! # Numbers of YAML

The numbers that scalars write: integers in base two, eight, ten, sixteen and sixty, and doubles in
base ten and sixty. Underscores are left out.
-/

namespace FormCheck.Yaml

def splitSign : List Char → Bool × List Char
  | '-' :: rest => (true, rest)
  | '+' :: rest => (false, rest)
  | cs => (false, cs)

/-! ## Integers -/

def digitIn? (base : Nat) (c : Char) : Option Nat :=
  ((Json.hexValue? c).orElse fun _ => Text.digitValue? c).filter (· < base)

def withoutLetter (base : Nat) (cs : List Char) : List Char :=
  match base, cs with
  | 2, '0' :: 'b' :: rest => rest
  | 2, '0' :: 'B' :: rest => rest
  | 8, '0' :: 'o' :: rest => rest
  | 8, '0' :: 'O' :: rest => rest
  | 16, '0' :: 'x' :: rest => rest
  | 16, '0' :: 'X' :: rest => rest
  | _, cs => cs

def readInteger (base : Nat) (cs : List Char) : Except Flaw Int :=
  let (negative, unsigned) := splitSign (Text.trimList cs)
  let digits := withoutLetter base unsigned
  match digits.mapM (digitIn? base) with
  | some ds =>
    if ds.isEmpty then .error (.integer base (String.ofList cs))
    else if base = 10 && Number.digitLimit < ds.length then .error (.integerTooLong ds.length)
    else
      let n : Int := (ds.foldl (fun n d => n * base + d) 0 : Nat)
      .ok (if negative then -n else n)
  | none => .error (.integer base (String.ofList cs))

def integerOf (text : String) : Except Flaw Int := do
  let cs := text.toList.filter (· != '_')
  if cs.isEmpty then throw .emptyNumber
  let (negative, u) := splitSign cs
  let n ← match u with
    | [] => throw .emptyNumber
    | ['0'] => pure 0
    | '0' :: 'b' :: rest => readInteger 2 rest
    | '0' :: 'x' :: rest => readInteger 16 rest
    | '0' :: _ => readInteger 8 u
    | _ =>
      if u.contains ':' then do
        let parts ← (Text.splitAt ':' u).mapM (readInteger 10)
        pure (parts.foldl (fun n p => n * 60 + p) 0)
      else readInteger 10 u
  pure (if negative then -n else n)

/-! ## Doubles -/

/-- The sum of two doubles, given as integers over one power of two, rounded. -/
def sumOfScaled (m n : Int) (e : Int) : Number.Double :=
  let s := m + n
  if s = 0 then .zero false
  else if 0 ≤ e then .ofRatio (s < 0) (s.natAbs * Nat.pow 2 e.toNat) 1
  else .ofRatio (s < 0) s.natAbs (Nat.pow 2 (-e).toNat)

def signedBy (negative : Bool) (n : Nat) : Int :=
  if negative then -(n : Int) else n

def addDoubles (x y : Number.Double) : Number.Double :=
  match x, y with
  | .nan mark, _ => .nan mark
  | _, .nan mark => .nan mark
  | .infinite a, .infinite b => if a = b then .infinite a else .nan 0
  | .infinite a, _ => .infinite a
  | _, .infinite b => .infinite b
  | .finite a m e, .finite b n f =>
    if m = 0 ∧ n = 0 then .zero (a && b)
    else
      let low := min e f
      sumOfScaled (signedBy a (m * Nat.pow 2 (e - low).toNat))
        (signedBy b (n * Nat.pow 2 (f - low).toNat)) low

def multiplyDoubles (x y : Number.Double) : Number.Double :=
  match x, y with
  | .nan mark, _ => .nan mark
  | _, .nan mark => .nan mark
  | .infinite a, .infinite b => .infinite (a != b)
  | .infinite a, .finite b n _ => if n = 0 then .nan 0 else .infinite (a != b)
  | .finite a m _, .infinite b => if m = 0 then .nan 0 else .infinite (a != b)
  | .finite a m e, .finite b n f =>
    if m = 0 ∨ n = 0 then .zero (a != b)
    else if 0 ≤ e + f then .ofRatio (a != b) (m * n * Nat.pow 2 (e + f).toNat) 1
    else .ofRatio (a != b) (m * n) (Nat.pow 2 (-(e + f)).toNat)

def scaleDouble (x : Number.Double) (n : Nat) : Except Flaw Number.Double :=
  match Number.Double.ofRatio false n 1 with
  | .infinite _ => .error .doubleTooLarge
  | factor => .ok (multiplyDoubles x factor)

def readUnsigned? (cs : List Char) : Option (Bool → Number.Double) := do
  let digit := fun (c : Char) => (Text.digitValue? c).isSome
  let whole := cs.takeWhile digit
  let rest := cs.drop whole.length
  let (part, rest) := match rest with
    | '.' :: more => (more.takeWhile digit, more.dropWhile digit)
    | more => ([], more)
  if whole.isEmpty && part.isEmpty then none
  let exponent ← match rest with
    | [] => some (0 : Int)
    | e :: more =>
      if e != 'e' && e != 'E' then none
      else
        let (negative, ds) := splitSign more
        match ds.mapM Text.digitValue? with
        | some (d :: ds) => some (signedBy negative (Number.ofDigits (d :: ds)))
        | _ => none
  let ds ← (whole ++ part).mapM Text.digitValue?
  pure fun negative => .ofDecimal negative (Number.ofDigits ds) (exponent - part.length)

def readDouble (cs : List Char) : Except Flaw Number.Double :=
  let (negative, u) := splitSign (Text.trimList cs)
  let word := String.ofList u
  if word == "inf" || word == "infinity" then .ok (.infinite negative)
  else if word == "nan" then .ok (.nan 0)
  else match readUnsigned? u with
    | some make => .ok (make negative)
    | none => .error (.double (String.ofList cs))

def sumSixtieths : List Number.Double → Nat → Number.Double → Except Flaw Number.Double
  | [], _, sum => .ok sum
  | part :: rest, base, sum => do
    let scaled ← scaleDouble part base
    sumSixtieths rest (base * 60) (addDoubles sum scaled)

/-- The double of the scalar of a number. All scalars with the word for no number share one value;
what comes of other scalars is no number of its own. -/
def doubleOf (number : Nat) (text : String) : Except Flaw Number.Double := do
  let cs := (Text.lower (String.ofList (text.toList.filter (· != '_')))).toList
  if cs.isEmpty then throw .emptyNumber
  let (negative, u) := splitSign cs
  if u == ".inf".toList then pure (.infinite negative)
  else if u == ".nan".toList then pure (.nan 0)
  else
    let d ← if u.contains ':' then do
        let parts ← (Text.splitAt ':' u).mapM readDouble
        sumSixtieths parts.reverse 1 (.zero false)
      else readDouble u
    pure ((if negative then d.negated else d).marked (number + 1))

end FormCheck.Yaml
