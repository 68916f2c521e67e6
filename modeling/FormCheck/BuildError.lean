import FormCheck.Document.Issue
import FormCheck.FieldType
import FormCheck.Rule

/-! # Build errors

What can be wrong with a declaration, and where. The location names the form, the field and the
attribute as far as they are known; what is known first stays. An error keeps the words in which it
was put, and is put into words anew when it learns more of its place.
-/

namespace FormCheck

/-- How a declaration can be malformed. A document that is no mapping of the right kind has no
issues of its own. -/
inductive Malformed where
  | formName (name : Value)
  | formAttribute (written : Value)
  | notAFormAttribute (name : Value)
  | patternArguments
  | noPattern
  | patternIdentifier (identifier : String)
  | patternNotText
  | fieldName (name : Value)
  | fieldRepeated
  | fieldType (flaw : TypeFlaw)
  | fieldAttribute (written : Value)
  | unknownAttribute (name : Value)
  | patternsOnField
  | noValidator
  | flag (written : Value)
  | missingArgument (validator : String)
  | unknownValidator (name : Value)
  | needlessArgument (validator : String)
  | lengthArgument (validator : String)
  | valueArgument (validator : String)
  | textArgument (validator : String)
  | referenceIdentifier (identifier : String)
  | matchOptions
  | matchCount (count : Nat)
  | matchTarget (target : Value)
  | validateTaken
  | document (issues : Option (List Issue))
  | described (detail : Value)
  deriving Repr, Inhabited

def Malformed.message : Malformed → String
  | .formName name => s!"form name {name.literal} is not an identifier"
  | .formAttribute written => s!"unsupported struct attribute {written.literal}"
  | .notAFormAttribute name => s!"`{name.shown}` is not a struct-level attribute"
  | .patternArguments => "validate_regex only accepts `identifier = \"pattern\"` pairs"
  | .noPattern => "validate_regex declares no pattern"
  | .patternIdentifier identifier => s!"regex id `{identifier}` is not an identifier"
  | .patternNotText => "compiling a regex via validate_regex requires a string argument"
  | .fieldName name => s!"field name {name.literal} is not an identifier"
  | .fieldRepeated => "field declared more than once"
  | .fieldType flaw => flaw.message
  | .fieldAttribute written => s!"unsupported field attribute {written.literal}"
  | .unknownAttribute name => s!"unknown attribute `{name.shown}`"
  | .patternsOnField => "validate_regex is a struct-level attribute"
  | .noValidator => "validate requires at least one validator"
  | .flag written => s!"unsupported validate argument {written.literal}"
  | .missingArgument validator => s!"{validator} requires an argument: `{validator} = ...`"
  | .unknownValidator name => s!"unknown validator `{name.shown}`"
  | .needlessArgument validator => s!"{validator} takes no argument"
  | .lengthArgument validator => s!"{validator} requires a non-negative integer argument"
  | .valueArgument validator => s!"{validator} requires a numeric argument"
  | .textArgument validator => s!"{validator} requires a string argument"
  | .referenceIdentifier identifier => s!"compiled_regex `{identifier}` is not a regex id"
  | .matchOptions => "validate_match takes the target field name only"
  | .matchCount count => s!"validate_match takes exactly one field name, got {count}"
  | .matchTarget target => s!"validate_match target {target.literal} is not a field name"
  | .validateTaken => "`validate` is already defined on the class"
  | .document _ => "invalid form document: <cause>"
  | .described detail => detail.shown

inductive Mismatch where
  | needsText (kind : RuleKind) (field : String) (type : FieldType)
  | needsNumber (kind : RuleKind) (field : String) (type : FieldType)
  | boundKind (kind : RuleKind) (limit : Number.Numeral) (field : String) (type : FieldType)
  | targetType (field : String) (type : FieldType) (target : String) (other : FieldType)
  | described (detail sides : Value)
  deriving Repr, Inhabited

namespace Mismatch

def message : Mismatch → String
  | .needsText kind field type =>
    s!"{kind.text} requires a str field, `{field}` is {type.text}"
  | .needsNumber kind field type =>
    s!"{kind.text} requires a numeric field, `{field}` is {type.text}"
  | .boundKind kind limit field type =>
    s!"{kind.text} bound {limit.value.literal} is {limit.value.kindName}, " ++
      s!"field `{field}` is {type.base}"
  | .targetType field type target other =>
    s!"`{field}` is {type.text} but validate_match target `{target}` is {other.text}"
  | .described detail _ => detail.shown

def sides : Mismatch → Value
  | .targetType .. => .text "field_vs_field"
  | .described _ sides => sides
  | _ => .text "field_vs_bound"

end Mismatch

/-- What is wrong with a declaration. A cause may be described by any value, and may be a list of
other errors of which the texts are known. -/
inductive Cause where
  | described (detail : Value)
  | malformed (m : Malformed)
  | duplicateIdentifier (identifier : String)
  | invalidPattern (identifier pattern reason : String) (subject : Option String)
  | unknownIdentifier (identifier : String)
  | unknownPatternReference (identifier : String)
  | unknownMatchTarget (target : String) (reason : Option String)
  | typeMismatch (m : Mismatch)
  | several (texts : List String)
  deriving Repr, Inhabited

def filled? : Option String → Option String
  | some "" => none
  | s => s

def severalText (texts : List String) : String :=
  s!"{texts.length} build error(s)\n" ++ "\n".intercalate (texts.map fun t => s!"  - {t}")

def Cause.message : Cause → String
  | .described detail => detail.shown
  | .malformed m => m.message
  | .duplicateIdentifier identifier => s!"regex with id `{identifier}` already defined"
  | .invalidPattern identifier pattern reason subject =>
    let subject := (filled? subject).getD s!"`{identifier}`"
    s!"invalid regex `{pattern}` for {subject}: {reason}"
  | .unknownIdentifier identifier => s!"no regex with id `{identifier}`"
  | .unknownPatternReference identifier =>
    s!"compiled_regex `{identifier}` requires a pre-compiled regex " ++
      "via a `validate_regex` struct attribute"
  | .unknownMatchTarget target reason =>
    (filled? reason).getD s!"validate_match target `{target}` is not a field"
  | .typeMismatch m => m.message
  | .several texts => severalText texts

def Cause.detail : Cause → Value
  | .described detail => detail
  | .malformed (.described detail) => detail
  | .typeMismatch (.described detail _) => detail
  | c => .text c.message

def locationText? (form field attributeText : Value) : Option String :=
  let parts := ([form, field].filter Value.truthy).map Value.shown
  let bracketed :=
    if attributeText.truthy then some ("[" ++ attributeText.shown ++ "]") else none
  match parts, bracketed with
  | [], none => none
  | [], some a => some a
  | _, none => some (".".intercalate parts)
  | _, some a => some (".".intercalate parts ++ " " ++ a)

def Cause.textAt (c : Cause) (form field attributeText : Value) : String :=
  match locationText? form field attributeText with
  | some location => location ++ ": " ++ c.message
  | none => c.message

/-- An error of a declaration with its location and its words. The form, the field and the attribute
are named by whatever was given as their names; what is not known is null. -/
structure BuildError where
  cause : Cause
  form : Value
  field : Value
  attributeText : Value
  text : String
  deriving Repr, Inhabited

namespace BuildError

def new (cause : Cause) (form field attributeText : Value) : BuildError :=
  { cause, form, field, attributeText, text := cause.textAt form field attributeText }

section New
variable (cause : Cause) (form field attributeText : Value)

@[simp] theorem new_cause : (new cause form field attributeText).cause = cause := rfl

@[simp] theorem new_form : (new cause form field attributeText).form = form := rfl

@[simp] theorem new_field : (new cause form field attributeText).field = field := rfl

@[simp] theorem new_attributeText :
    (new cause form field attributeText).attributeText = attributeText := rfl

end New

def inForm (form : Value) (cause : Cause) : BuildError :=
  new cause form .null .null

def ofCause (cause : Cause) : BuildError :=
  inForm .null cause

/-- Several errors of a form as one error. It knows the form, but its words leave it out until there
is more to tell. -/
def ofTexts (texts : List String) (form : Value) : BuildError :=
  { ofCause (.several texts) with form }

def malformed (m : Malformed) : BuildError :=
  ofCause (.malformed m)

def firstFilled (v w : Value) : Value :=
  if v.truthy then v else w

def withContext (e : BuildError) (form field attributeText : Value) : BuildError :=
  new e.cause (firstFilled e.form form) (firstFilled e.field field)
    (firstFilled e.attributeText attributeText)

/-- Whether an error can be put into words: names of forms and fields that count have to be
texts. -/
def renders (e : BuildError) : Bool :=
  (!e.form.truthy || e.form.text?.isSome) && (!e.field.truthy || e.field.text?.isSome)

end BuildError

end FormCheck
