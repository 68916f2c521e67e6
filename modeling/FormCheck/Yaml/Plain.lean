import FormCheck.Number.Digits
import FormCheck.Text.Listing
import FormCheck.Yaml.Node

/-! # Plain scalars

What a scalar stands for whose tag is left to its text: truth values, null, numbers in several
notations, moments, and the marks of merging and of the default value. All else is a text. One line
feed at the end does not count, as long as something stands before it.
-/

namespace FormCheck.Yaml

def truthWords : List String := ["yes", "no", "true", "false", "on", "off"]

def capitalized : List Char → List Char
  | [] => []
  | c :: rest => c.toUpper :: rest

def isWord (words : List String) (cs : List Char) : Bool :=
  words.any fun w =>
    let w := w.toList
    cs == w || cs == capitalized w || cs == w.map Char.toUpper

def unsigned : List Char → List Char
  | '-' :: rest => rest
  | '+' :: rest => rest
  | cs => cs

def isDigitOrGap (c : Char) : Bool := c.isDigit || c == '_'

def isRun (accept : Char → Bool) (cs : List Char) : Bool :=
  !cs.isEmpty && cs.all accept

def isDecimalRun (cs : List Char) : Bool :=
  cs.head?.any Char.isDigit && cs.all isDigitOrGap

def isSixtieth : List Char → Bool
  | [a] => a.isDigit
  | [a, b] => '0' ≤ a && a ≤ '5' && b.isDigit
  | _ => false

def isSexagesimal (cs : List Char) : Bool :=
  match Text.splitAt ':' cs with
  | first :: rest => !rest.isEmpty && first.head? != some '0' && isDecimalRun first &&
      rest.all isSixtieth
  | [] => false

def isInteger (cs : List Char) : Bool :=
  let u := unsigned cs
  match u with
  | '0' :: 'b' :: rest => isRun (fun c => c == '0' || c == '1' || c == '_') rest
  | '0' :: 'x' :: rest => isRun (fun c => c.isDigit || c == '_' || ('a' ≤ c && c ≤ 'f') ||
      ('A' ≤ c && c ≤ 'F')) rest
  | '0' :: rest => rest.all fun c => ('0' ≤ c && c ≤ '7') || c == '_'
  | _ => isDecimalRun u || isSexagesimal u

def isExponent : List Char → Bool
  | [] => true
  | e :: sign :: digits =>
    (e == 'e' || e == 'E') && (sign == '-' || sign == '+') && isRun Char.isDigit digits
  | _ => false

def isDecimalFraction (cs : List Char) : Bool :=
  let u := unsigned cs
  let whole := u.takeWhile isDigitOrGap
  match u.drop whole.length with
  | '.' :: rest => isDecimalRun whole && isExponent (rest.dropWhile isDigitOrGap)
  | _ => false

def isBareFraction : List Char → Bool
  | '.' :: rest => rest.head?.any Char.isDigit && isExponent (rest.dropWhile isDigitOrGap)
  | _ => false

def isSexagesimalFraction (cs : List Char) : Bool :=
  let u := unsigned cs
  let whole := u.takeWhile (· != '.')
  match u.drop whole.length, Text.splitAt ':' whole with
  | '.' :: rest, first :: more =>
    rest.all isDigitOrGap && !more.isEmpty && isDecimalRun first && more.all isSixtieth
  | _, _ => false

def isDouble (cs : List Char) : Bool :=
  isDecimalFraction cs || isBareFraction cs || isSexagesimalFraction cs ||
    ["inf", "Inf", "INF"].any (fun w => unsigned cs == '.' :: w.toList) ||
    ["nan", "NaN", "NAN"].any fun w => cs == '.' :: w.toList

/-! ## Moments -/

structure MomentParts where
  year : Nat
  month : Nat
  day : Nat
  clock : Option (Nat × Nat × Nat)
  fraction : List Nat
  offset : Option Int
  deriving Repr, Inhabited

def digitsBetween? (least most : Nat) (cs : List Char) : Option (Nat × List Char) :=
  let ds := (cs.take most).takeWhile Char.isDigit
  if ds.length < least then none
  else some (Number.ofDigits (ds.map fun c => c.toNat - '0'.toNat), cs.drop ds.length)

def after? (c : Char) : List Char → Option (List Char)
  | [] => none
  | d :: rest => if d == c then some rest else none

def skipSpaces (cs : List Char) : List Char :=
  cs.dropWhile fun c => c == ' ' || c == '\t'

def offset? (cs : List Char) : Option (Option Int) :=
  match skipSpaces cs with
  | [] => if cs.isEmpty then some none else none
  | ['Z'] => some (some 0)
  | sign :: rest => do
    if sign != '+' && sign != '-' then none
    let (hours, rest) ← digitsBetween? 1 2 rest
    let minutes ← match rest with
      | [] => some 0
      | ':' :: rest => do
        let (m, rest) ← digitsBetween? 2 2 rest
        if rest.isEmpty then some m else none
      | _ => none
    let total : Int := hours * 60 + minutes
    pure (some (if sign == '-' then -total else total))

def clock? (parts : MomentParts) (cs : List Char) : Option MomentParts := do
  let cs ← match cs with
    | 'T' :: rest => some rest
    | 't' :: rest => some rest
    | c :: _ => if c == ' ' || c == '\t' then some (skipSpaces cs) else none
    | [] => none
  let (hour, cs) ← digitsBetween? 1 2 cs
  let cs ← after? ':' cs
  let (minute, cs) ← digitsBetween? 2 2 cs
  let cs ← after? ':' cs
  let (second, cs) ← digitsBetween? 2 2 cs
  let (fraction, cs) := match cs with
    | '.' :: rest => (rest.takeWhile Char.isDigit, rest.dropWhile Char.isDigit)
    | cs => ([], cs)
  let offset ← offset? cs
  pure { parts with
    clock := some (hour, minute, second)
    fraction := fraction.map fun c => c.toNat - '0'.toNat
    offset }

def momentParts? (cs : List Char) : Option MomentParts := do
  let (year, cs) ← digitsBetween? 4 4 cs
  let cs ← after? '-' cs
  let (month, cs) ← digitsBetween? 1 2 cs
  let cs ← after? '-' cs
  let (day, cs) ← digitsBetween? 1 2 cs
  let parts : MomentParts := { year, month, day, clock := none, fraction := [], offset := none }
  if cs.isEmpty then pure parts else clock? parts cs

def isMoment (cs : List Char) : Bool :=
  match momentParts? cs with
  | some parts => parts.clock.isSome || cs.length == 10
  | none => false

/-! ## Tags -/

def withoutFinalBreak (cs : List Char) : List Char :=
  match cs.getLast? with
  | some '\n' => cs.dropLast
  | _ => cs

/-- The standard tag of a text. The marks of tags, anchors and aliases have a tag of their own. -/
def plainTag (text : String) : String :=
  let cs := withoutFinalBreak text.toList
  standardTag <|
    if text.isEmpty then "null"
    else if isWord truthWords cs then "bool"
    else if isDouble cs then "float"
    else if isInteger cs then "int"
    else if cs == ['<', '<'] then "merge"
    else if cs == ['~'] || isWord ["null"] cs then "null"
    else if isMoment cs then "timestamp"
    else if cs == ['='] then "value"
    else if cs == ['!'] || cs == ['&'] || cs == ['*'] then "yaml"
    else "str"

end FormCheck.Yaml
