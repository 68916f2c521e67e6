import FormCheck.Value
import FormCheck.Yaml.Number

/-! # Values of scalars

What the text of a scalar stands for under each of the standard tags.
-/

namespace FormCheck.Yaml

def truthOf (text : String) : Except Flaw Value :=
  let word := Text.lower text
  if ["yes", "true", "on"].contains word then .ok (.bool true)
  else if ["no", "false", "off"].contains word then .ok (.bool false)
  else .error (.unknownTruth word)

def dateOf (p : MomentParts) : Except MomentFlaw Date :=
  if p.year = 0 then .error (.year p.year)
  else if p.month = 0 ∨ 12 < p.month then .error .month
  else if p.day = 0 ∨ Date.daysIn p.year p.month < p.day then .error .day
  else .ok { year := p.year, month := p.month, day := p.day }

def microsecondsOf (fraction : List Nat) : Nat :=
  Number.ofDigits ((fraction ++ List.replicate 6 0).take 6)

def momentOf (p : MomentParts) : Except MomentFlaw Value :=
  match p.clock with
  | none => (dateOf p).map .date
  | some (hour, minute, second) => do
    match p.offset with
    | some minutes =>
      if minutes ≤ -1440 ∨ 1440 ≤ minutes then throw (.offset minutes)
    | none => pure ()
    let date ← dateOf p
    if 23 < hour then throw .hour
    if 59 < minute then throw .minute
    if 59 < second then throw .second
    pure (.moment { date, hour, minute, second, microsecond := microsecondsOf p.fraction
                    offset := p.offset })

def timestampOf (text : String) : Except Flaw Value :=
  match momentParts? (withoutFinalBreak text.toList) with
  | none => .error .notAMoment
  | some p => (momentOf p).mapError .moment

def sixBits? (c : Char) : Option Nat :=
  if 'A' ≤ c ∧ c ≤ 'Z' then some (c.toNat - 'A'.toNat)
  else if 'a' ≤ c ∧ c ≤ 'z' then some (c.toNat - 'a'.toNat + 26)
  else if c.isDigit then some (c.toNat - '0'.toNat + 52)
  else if c == '+' then some 62
  else if c == '/' then some 63
  else none

/-- The bytes that groups of six bits write. The pending bits are given with their number; equals
signs end the text once they fill a group of four. -/
def bytesOf : List Char → Nat → Nat → Nat → Option (List UInt8)
  | [], _, place, _ => if place = 0 then some [] else none
  | c :: rest, pending, place, pads =>
    if c == '=' then
      if 2 ≤ place ∧ 4 ≤ place + pads + 1 then some []
      else bytesOf rest pending place (if 2 ≤ place then pads + 1 else pads)
    else match sixBits? c with
      | none => bytesOf rest pending place pads
      | some n =>
        match place with
        | 0 => bytesOf rest n 1 0
        | 1 => (bytesOf rest (n % 16) 2 0).map ((pending * 4 + n / 16).toUInt8 :: ·)
        | 2 => (bytesOf rest (n % 4) 3 0).map ((pending * 16 + n / 4).toUInt8 :: ·)
        | _ => (bytesOf rest 0 0 0).map ((pending * 64 + n).toUInt8 :: ·)

def binaryOf (text : String) : Except Flaw Value :=
  let cs := text.toList
  if cs.all fun c => c.toNat < 128 then
    match bytesOf cs 0 0 0 with
    | some bytes => .ok (.bytes bytes)
    | none => .error .malformed
  else .error .malformed

def isScalarTag (tag : String) : Bool :=
  ["str", "null", "bool", "int", "float", "timestamp", "binary"].any fun t => tag == standardTag t

def scalarOf (number : Nat) (tag text : String) : Except Flaw Value :=
  if tag == standardTag "str" then .ok (.text text)
  else if tag == standardTag "null" then .ok .null
  else if tag == standardTag "bool" then truthOf text
  else if tag == standardTag "int" then (integerOf text).map .int
  else if tag == standardTag "float" then (doubleOf number text).map .float
  else if tag == standardTag "timestamp" then timestampOf text
  else if tag == standardTag "binary" then binaryOf text
  else .error .malformed

end FormCheck.Yaml
