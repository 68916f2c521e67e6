import FormCheck.Json.Flaw
import FormCheck.Text.Digit
import FormCheck.Value

/-! # Reading JSON

The value of a JSON text. Objects become mappings in which the last of repeated names prevails;
numbers with a fraction or an exponent become doubles; the words `NaN` and `Infinity` are numbers.
Readers take a place in the text and give back the one after what they read.
-/

namespace FormCheck.Json

/-- A place in a text: how many characters came before, and those that follow. -/
structure Place where
  position : Nat
  rest : List Char
  deriving Repr, Inhabited

def failAt {α : Type} (reason : Reason) (position : Nat) : Except Flaw α :=
  .error (.malformed reason position)

def Place.drop (p : Place) (n : Nat) : Place :=
  { position := p.position + n, rest := p.rest.drop n }

def isSpace (c : Char) : Bool :=
  c == ' ' || c == '\t' || c == '\n' || c == '\x0d'

def Place.skip (p : Place) : Place :=
  p.drop (p.rest.takeWhile isSpace).length

def hexValue? (c : Char) : Option Nat :=
  if '0' ≤ c ∧ c ≤ '9' then some (c.toNat - '0'.toNat)
  else if 'a' ≤ c ∧ c ≤ 'f' then some (c.toNat - 'a'.toNat + 10)
  else if 'A' ≤ c ∧ c ≤ 'F' then some (c.toNat - 'A'.toNat + 10)
  else none

def fourHex? : List Char → Option Nat
  | a :: b :: c :: d :: _ => do
    let a ← hexValue? a
    let b ← hexValue? b
    let c ← hexValue? c
    let d ← hexValue? d
    pure (((a * 16 + b) * 16 + c) * 16 + d)
  | _ => none

/-! ## Texts -/

def shortEscape? : Char → Option Char
  | '"' => some '"'
  | '\\' => some '\\'
  | '/' => some '/'
  | 'b' => some '\x08'
  | 'f' => some '\x0c'
  | 'n' => some '\n'
  | 'r' => some '\x0d'
  | 't' => some '\t'
  | _ => none

def isHigh (n : Nat) : Bool := 0xD800 ≤ n && n ≤ 0xDBFF

def isLow (n : Nat) : Bool := 0xDC00 ≤ n && n ≤ 0xDFFF

def charOfUnit (n : Nat) : Except Flaw Char :=
  if isHigh n || isLow n then .error .halfPair else .ok (Char.ofNat n)

/-- The character of an escape by code, of which `p` is the place after the `u`. -/
def readCodeEscape (p : Place) : Except Flaw (Char × Place) :=
  if p.rest.length ≤ 4 then failAt .badCodeEscape (p.position - 1)
  else match fourHex? p.rest with
    | none => failAt .badCodeEscape (p.position - 1)
    | some high =>
      let after := p.drop 4
      match isHigh high && 6 < after.rest.length, after.rest with
      | true, '\\' :: 'u' :: second =>
        match fourHex? second with
        | none => failAt .badCodeEscape (after.position + 1)
        | some low =>
          if isLow low then
            .ok (Char.ofNat (0x10000 + (high - 0xD800) * 0x400 + (low - 0xDC00)), after.drop 6)
          else (charOfUnit high).map (·, after)
      | _, _ => (charOfUnit high).map (·, after)

def readText (start : Nat) : Nat → Place → List Char → Except Flaw (String × Place)
  | 0, _, _ => failAt .unterminatedText start
  | fuel + 1, p, read =>
    match p.rest with
    | [] => failAt .unterminatedText start
    | '"' :: _ => .ok (String.ofList read.reverse, p.drop 1)
    | ['\\'] => failAt .unterminatedText start
    | '\\' :: 'u' :: _ => do
      let (c, after) ← readCodeEscape (p.drop 2)
      readText start fuel after (c :: read)
    | '\\' :: c :: _ =>
      match shortEscape? c with
      | some e => readText start fuel (p.drop 2) (e :: read)
      | none => failAt .badEscape p.position
    | c :: _ =>
      if c ≤ '\x1f' then failAt .controlCharacter p.position
      else readText start fuel (p.drop 1) (c :: read)

/-! ## Numbers -/

def spanDigits (cs : List Char) : List Nat :=
  (cs.takeWhile Char.isDigit).map fun c => c.toNat - '0'.toNat

def fraction (cs : List Char) : List Nat :=
  match cs with
  | '.' :: rest => spanDigits rest
  | _ => []

def exponent? : List Char → Option (Int × Nat)
  | e :: rest =>
    if e == 'e' || e == 'E' then
      let (negative, signed, digits) := match rest with
        | '-' :: r => (true, 1, spanDigits r)
        | '+' :: r => (false, 1, spanDigits r)
        | r => (false, 0, spanDigits r)
      if digits.isEmpty then none
      else
        let n : Int := Number.ofDigits digits
        some (if negative then -n else n, 1 + signed + digits.length)
    else none
  | [] => none

def readUnsigned (negative : Bool) (start : Nat) (p : Place) : Except Flaw (Value × Place) :=
  let whole := match p.rest with
    | '0' :: _ => [0]
    | cs => spanDigits cs
  if whole.isEmpty then failAt .expectingValue start
  else
    let p := p.drop whole.length
    let part := fraction p.rest
    let q := if part.isEmpty then p else p.drop (part.length + 1)
    match exponent? q.rest with
    | some (exponent, length) =>
      .ok (.float (.ofDecimal negative (Number.ofDigits (whole ++ part)) (exponent - part.length)),
        q.drop length)
    | none =>
      if part.isEmpty then
        if Number.digitLimit < whole.length then .error (.integerTooLong whole.length)
        else
          let n : Int := Number.ofDigits whole
          .ok (.int (if negative then -n else n), q)
      else .ok (.float (.ofDecimal negative (Number.ofDigits (whole ++ part)) (-part.length)), q)

def readNumber (p : Place) : Except Flaw (Value × Place) :=
  match p.rest with
  | '-' :: _ => readUnsigned true p.position (p.drop 1)
  | _ => readUnsigned false p.position p

/-! ## Values -/

def words : List (List Char × Value) :=
  [("null".toList, .null), ("true".toList, .bool true), ("false".toList, .bool false),
   ("NaN".toList, .float (.nan 0)), ("Infinity".toList, .float (.infinite false)),
   ("-Infinity".toList, .float (.infinite true))]

def readAtom (p : Place) : Except Flaw (Value × Place) :=
  match words.find? fun w => w.1.isPrefixOf p.rest with
  | some (word, v) => .ok (v, p.drop word.length)
  | none => readNumber p

mutual

/-- The value at a place, inside which collections may nest as deeply as the first number says. The
second one is fuel. -/
def readValue : Nat → Nat → Place → Except Flaw (Value × Place)
  | _, 0, p => failAt .expectingValue p.position
  | depth, fuel + 1, p =>
    match p.rest, depth with
    | '"' :: rest, _ => do
      let (s, after) ← readText p.position (rest.length + 1) (p.drop 1) []
      pure (.text s, after)
    | '\x7b' :: _, 0 => .error (.tooDeep true)
    | '\x7b' :: _, depth + 1 =>
      let inside := (p.drop 1).skip
      match inside.rest with
      | '\x7d' :: _ => .ok (.map [], inside.drop 1)
      | _ => readMembers depth fuel inside []
    | '[' :: _, 0 => .error (.tooDeep false)
    | '[' :: _, depth + 1 =>
      let inside := (p.drop 1).skip
      match inside.rest with
      | ']' :: _ => .ok (.list [], inside.drop 1)
      | _ => readItems depth fuel inside []
    | _, _ => readAtom p

def readMembers (depth : Nat) : Nat → Place → List (Value × Value) → Except Flaw (Value × Place)
  | 0, p, _ => failAt .expectingName p.position
  | fuel + 1, p, read =>
    match p.rest with
    | '"' :: rest => do
      let (name, after) ← readText p.position (rest.length + 1) (p.drop 1) []
      let colon := after.skip
      match colon.rest with
      | ':' :: _ => do
        let (v, after) ← readValue depth fuel (colon.drop 1).skip
        let next := after.skip
        let read := (.text name, v) :: read
        match next.rest with
        | '\x7d' :: _ => pure (Value.ofPairs read.reverse, next.drop 1)
        | ',' :: _ => readMembers depth fuel (next.drop 1).skip read
        | _ => failAt .expectingComma next.position
      | _ => failAt .expectingColon colon.position
    | _ => failAt .expectingName p.position

def readItems (depth : Nat) : Nat → Place → List Value → Except Flaw (Value × Place)
  | 0, p, _ => failAt .expectingValue p.position
  | fuel + 1, p, read => do
    let (v, after) ← readValue depth fuel p
    let next := after.skip
    match next.rest with
    | ']' :: _ => pure (.list (v :: read).reverse, next.drop 1)
    | ',' :: _ => readItems depth fuel (next.drop 1).skip (v :: read)
    | _ => failAt .expectingComma next.position

end

def read (depth : Nat) (text : String) : Except Flaw Value :=
  let cs := text.toList
  if cs.head? = some '\ufeff' then failAt .byteOrderMark 0
  else do
    let (v, after) ← readValue depth (2 * cs.length + 2) (Place.mk 0 cs).skip
    let finish := after.skip
    if finish.rest.isEmpty then pure v else failAt .extraData finish.position

end FormCheck.Json
