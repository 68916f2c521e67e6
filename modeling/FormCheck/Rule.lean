import FormCheck.Number.Order
import FormCheck.Pattern.Search
import FormCheck.Value.Literal

/-! # Rules

A rule is one validator of a field with its argument. Rules that test a pattern carry the entry of
the form's registry that holds it, once there is one.
-/

namespace FormCheck

/-- A named pattern, read once and shared by every rule that refers to it. -/
structure Entry where
  identifier : String
  pattern : String
  node : Pattern.Node
  deriving DecidableEq, Repr, Inhabited

def Entry.matches (e : Entry) (text : String) : Bool :=
  e.node.matches text

inductive RuleKind where
  | email
  | phone
  | minLength
  | maxLength
  | minValue
  | maxValue
  | regex
  | compiledRegex
  | matchField
  deriving DecidableEq, Repr, Inhabited

namespace RuleKind

def all : List RuleKind :=
  [.email, .phone, .minLength, .maxLength, .minValue, .maxValue, .regex, .compiledRegex,
   .matchField]

def text : RuleKind → String
  | .email => "email"
  | .phone => "phone"
  | .minLength => "min_length"
  | .maxLength => "max_length"
  | .minValue => "min_value"
  | .maxValue => "max_value"
  | .regex => "regex"
  | .compiledRegex => "compiled_regex"
  | .matchField => "match_field"

def ofText? (name : String) : Option RuleKind :=
  all.find? fun k => k.text == name

def needsText : RuleKind → Bool
  | .minValue => false
  | .maxValue => false
  | .matchField => false
  | _ => true

end RuleKind

def Number.Numeral.value : Number.Numeral → Value
  | .int i => .int i
  | .double d => .float d
  | .decimal d => .decimal d

def RuleKind.argumentName? : RuleKind → Option String
  | .minLength => some "min"
  | .maxLength => some "max"
  | .minValue => some "min"
  | .maxValue => some "max"
  | .regex => some "pattern"
  | .compiledRegex => some "identifier"
  | .matchField => some "target"
  | .email => none
  | .phone => none

def RuleKind.sentence (kind : RuleKind) (argument : String) : String :=
  match kind with
  | .email => "invalid email address"
  | .phone => "invalid phone number"
  | .minLength => s!"must be at least {argument} characters"
  | .maxLength => s!"must be at most {argument} characters"
  | .minValue => s!"must be at least {argument}"
  | .maxValue => s!"must be at most {argument}"
  | .regex => s!"does not match pattern `{argument}`"
  | .compiledRegex => s!"does not match pattern `{argument}`"
  | .matchField => s!"must match `{argument}`"

/-- A validator of a field. A loose rule has an argument that rules of its kind do not have in a
declaration; a custom rule has a kind and nothing else. -/
inductive Rule where
  | email
  | phone
  | minLength (n : Int)
  | maxLength (n : Int)
  | minValue (bound : Number.Numeral)
  | maxValue (bound : Number.Numeral)
  | regex (pattern : String) (entry : Option Entry)
  | compiledRegex (identifier : String) (entry : Option Entry)
  | matchField (target : String)
  | loose (kind : RuleKind) (argument : Value)
  | custom (kind : RuleKind)
  deriving Repr, Inhabited

namespace Rule

def kind : Rule → RuleKind
  | .email => .email
  | .phone => .phone
  | .minLength _ => .minLength
  | .maxLength _ => .maxLength
  | .minValue _ => .minValue
  | .maxValue _ => .maxValue
  | .regex .. => .regex
  | .compiledRegex .. => .compiledRegex
  | .matchField _ => .matchField
  | .loose k _ => k
  | .custom k => k

def argument? : Rule → Option Value
  | .minLength n => some (.int n)
  | .maxLength n => some (.int n)
  | .minValue bound => some bound.value
  | .maxValue bound => some bound.value
  | .regex pattern _ => some (.text pattern)
  | .compiledRegex identifier _ => some (.text identifier)
  | .matchField target => some (.text target)
  | .loose _ argument => some argument
  | .email => none
  | .phone => none
  | .custom _ => none

def arguments (r : Rule) : List (String × Value) :=
  match r.kind.argumentName?, r.argument? with
  | some name, some v => [(name, v)]
  | _, _ => []

def entry? : Rule → Option Entry
  | .regex _ entry => entry
  | .compiledRegex _ entry => entry
  | _ => none

def describe (r : Rule) : String :=
  match r.arguments with
  | [] => r.kind.text
  | arguments =>
    r.kind.text ++ "(" ++
      ", ".intercalate (arguments.map fun a => a.1 ++ "=" ++ a.2.literal) ++ ")"

def failureMessage (r : Rule) : String :=
  match r with
  | .custom .email => RuleKind.email.sentence ""
  | .custom .phone => RuleKind.phone.sentence ""
  | .custom kind => s!"failed {kind.text}"
  | r => r.kind.sentence ((r.argument?.map Value.shown).getD "")

def isWritable (r : Rule) : Bool :=
  r.argument?.all Value.isWritable

end Rule

end FormCheck
