import FormCheck.Number.Digits

/-! # Flaws of JSON texts

Why a text is no JSON, and the sentence that says so with line, column and position.
-/

namespace FormCheck.Json

inductive Reason where
  | expectingValue
  | expectingName
  | expectingColon
  | expectingComma
  | extraData
  | unterminatedText
  | controlCharacter
  | badEscape
  | badCodeEscape
  | byteOrderMark
  deriving DecidableEq, Repr, Inhabited

def Reason.text : Reason → String
  | .expectingValue => "Expecting value"
  | .expectingName => "Expecting property name enclosed in double quotes"
  | .expectingColon => "Expecting ':' delimiter"
  | .expectingComma => "Expecting ',' delimiter"
  | .extraData => "Extra data"
  | .unterminatedText => "Unterminated string starting at"
  | .controlCharacter => "Invalid control character at"
  | .badEscape => "Invalid \\escape"
  | .badCodeEscape => "Invalid \\uXXXX escape"
  | .byteOrderMark => "Unexpected UTF-8 BOM (decode using utf-8-sig)"

/-- Why a text has no JSON value: it is malformed, holds an integer of too many digits, or nests its
collections too deeply. A text that escapes half of a surrogate pair alone has a value too, but none
that a text of characters could hold. -/
inductive Flaw where
  | malformed (reason : Reason) (position : Nat)
  | integerTooLong (digits : Nat)
  | tooDeep (object : Bool)
  | halfPair
  deriving DecidableEq, Repr, Inhabited

def Reason.textAt (r : Reason) (text : List Char) (position : Nat) : String :=
  let before := text.take position
  let line := before.count '\n' + 1
  let column := (before.reverse.takeWhile (· ≠ '\n')).length + 1
  s!"{r.text}: line {line} column {column} (char {position})"

def Flaw.textAt (f : Flaw) (text : String) : String :=
  match f with
  | .malformed reason position => reason.textAt text.toList position
  | .integerTooLong digits => Number.tooLongText (some digits)
  | .tooDeep object =>
    "maximum recursion depth exceeded while decoding a JSON " ++
      (if object then "object" else "array") ++ " from a unicode string"
  | .halfPair => "half of a surrogate pair"

end FormCheck.Json
