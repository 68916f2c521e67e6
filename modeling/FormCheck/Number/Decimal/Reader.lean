import FormCheck.Number.Decimal

/-! # Reading decimals

Blanks around the text and underscores anywhere in it are ignored, and digits of every script
count. What remains is a sign, then digits with at most one point and an optional exponent, or a
name of an infinity or of a value that is no number.
-/

namespace FormCheck.Number.Decimal

def spanDigits (cs : List Char) : List Nat × List Char :=
  ((cs.takeWhile Char.isDigit).map (fun c => c.toNat - '0'.toNat), cs.dropWhile Char.isDigit)

def asciiForm? (cs : List Char) : Option (List Char) :=
  cs.mapM fun c =>
    match Text.digitValue? c with
    | some d => some (Char.ofNat ('0'.toNat + d))
    | none => if c.toNat < 128 then some c else none

def splitSign : List Char → Bool × List Char
  | '-' :: cs => (true, cs)
  | '+' :: cs => (false, cs)
  | cs => (false, cs)

/-- The exponent after the digits; nothing stands for zero. -/
def readExponent? : List Char → Option Int
  | [] => some 0
  | e :: cs =>
    if e = 'e' ∨ e = 'E' then
      let (negative, cs) := splitSign cs
      match spanDigits cs with
      | ([], _) => none
      | (ds, []) => some (if negative then -(ofDigits ds : Int) else ofDigits ds)
      | _ => none
    else none

def readFinite? (negative : Bool) (cs : List Char) : Option Decimal :=
  let (whole, rest) := spanDigits cs
  let (fraction, rest) := match rest with
    | '.' :: rest => spanDigits rest
    | rest => ([], rest)
  if whole.isEmpty && fraction.isEmpty then none
  else do
    let e ← readExponent? rest
    let c := ofDigits (whole ++ fraction)
    let e := e - fraction.length
    if inRange c e then some (.finite negative c e) else none

def readPayload? (negative signalling : Bool) (cs : List Char) : Option Decimal :=
  match spanDigits cs with
  | (ds, []) => some (.nan negative signalling (ofDigits ds) 0)
  | _ => none

def readList? (cs : List Char) : Option Decimal := do
  let cs ← asciiForm? ((Text.stripList cs).filter (· ≠ '_'))
  let (negative, cs) := splitSign cs
  match cs.map Char.toLower with
  | 'i' :: 'n' :: 'f' :: [] => some (.infinite negative)
  | 'i' :: 'n' :: 'f' :: 'i' :: 'n' :: 'i' :: 't' :: 'y' :: [] => some (.infinite negative)
  | 'n' :: 'a' :: 'n' :: rest => readPayload? negative false rest
  | 's' :: 'n' :: 'a' :: 'n' :: rest => readPayload? negative true rest
  | _ => readFinite? negative cs

def read? (s : String) : Option Decimal :=
  readList? s.toList

end FormCheck.Number.Decimal
