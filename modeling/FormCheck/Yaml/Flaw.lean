import FormCheck.Calendar
import FormCheck.Number.Digits
import FormCheck.Text.Quoted

/-! # Flaws of YAML texts

A text may be no YAML, or have parts without a value. Some parts look like a number or a moment but
are none; these flaws say what they are.
-/

namespace FormCheck.Yaml

inductive MomentFlaw where
  | year (y : Nat)
  | month
  | day
  | hour
  | minute
  | second
  | offset (minutes : Int)
  deriving DecidableEq, Repr, Inhabited

def spanLiteral (minutes : Int) : String :=
  let seconds := minutes * 60
  let days := Int.fdiv seconds 86400
  let rest := Int.fmod seconds 86400
  let parts := (if days = 0 then [] else [s!"days={Number.intText days}"]) ++
    (if rest = 0 then [] else [s!"seconds={Number.intText rest}"])
  "datetime.timedelta(" ++ (if parts.isEmpty then "0" else ", ".intercalate parts) ++ ")"

def MomentFlaw.text : MomentFlaw → String
  | .year y => s!"year {y} is out of range"
  | .month => "month must be in 1..12"
  | .day => "day is out of range for month"
  | .hour => "hour must be in 0..23"
  | .minute => "minute must be in 0..59"
  | .second => "second must be in 0..59"
  | .offset minutes =>
    "offset must be a timedelta strictly between -timedelta(hours=24) and " ++
      "timedelta(hours=24), not " ++ spanLiteral minutes ++ "."

/-- Why a text has no value; one that escapes half of a surrogate pair has none made of
characters. -/
inductive Flaw where
  | malformed
  | unknownTruth (word : String)
  | emptyNumber
  | notAMoment
  | integer (base : Nat) (text : String)
  | integerTooLong (digits : Nat)
  | double (text : String)
  | doubleTooLarge
  | notAText
  | endless
  | tooDeep
  | halfPair
  | moment (flaw : MomentFlaw)
  | code (n : Nat)
  deriving DecidableEq, Repr, Inhabited

def cutQuoted (text : String) : String :=
  String.ofList ((Text.quoted text).toList.take 200)

def Flaw.text : Flaw → String
  | .malformed => "<cause>"
  | .unknownTruth word => Text.quoted word
  | .emptyNumber => "string index out of range"
  | .notAMoment => "no moment"
  | .integer base text => s!"invalid literal for int() with base {base}: {cutQuoted text}"
  | .integerTooLong digits => Number.tooLongText (some digits)
  | .double text => s!"could not convert string to float: {Text.quoted text}"
  | .doubleTooLarge => "int too large to convert to float"
  | .notAText => "expected string or bytes-like object"
  | .endless => "maximum recursion depth exceeded"
  | .tooDeep => "maximum recursion depth exceeded"
  | .halfPair => "half of a surrogate pair"
  | .moment flaw => flaw.text
  | .code _ => "chr() arg not in range(0x110000)"

end FormCheck.Yaml
