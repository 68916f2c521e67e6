import FormCheck.BuildError

/-! # Failures and their collection

Building a form fails with one build error, with several of one form, or with a fault: something
that is not an error of the declaration but stops the work. A collector gathers the build errors of
a form, or stops at the first if it is set to.
-/

namespace FormCheck

/-- What stops the work other than a build error. -/
inductive Fault where
  | unanswered
  | nameNotText
  | unhashable
  | incomparable
  | memberNotText
  | identifierNotText
  | numberTooLarge
  | integerTooLong (digits : Option Nat)
  | conflictingModes
  | frozenRegistry (scope : Value)
  | type (flaw : TypeFlaw)
  | unresolved (form : String)
  | noPattern (rule : String)
  | noCheck (kind : RuleKind)
  | formRepeated (name : Value)
  | unknownKind (name : Value)
  deriving Repr, Inhabited

def Fault.message : Fault → String
  | .unanswered => "comparison without an answer"
  | .nameNotText => "the name of the form is no text"
  | .unhashable => "unhashable value"
  | .incomparable => "values without an order"
  | .memberNotText => "the name of a member is no text"
  | .identifierNotText => "an identifier has to be a text"
  | .numberTooLarge => "a number of the pattern is too large"
  | .integerTooLong digits => Number.tooLongText digits
  | .conflictingModes => "ASCII and UNICODE flags are incompatible"
  | .frozenRegistry scope => s!"Pattern registry for {scope.literal} is frozen"
  | .type flaw => flaw.message
  | .unresolved form => s!"FormSpec {Text.quoted form} must be resolved before generation"
  | .noPattern rule => s!"Pattern for {rule} was never compiled"
  | .noCheck kind => s!"No generator for rule kind {kind.text}"
  | .formRepeated name => s!"Form {name.literal} declared more than once"
  | .unknownKind name => s!"{name.literal} is not a valid RuleKind"

inductive Failure where
  | build (e : BuildError)
  | several (form : Value) (errors : List BuildError)
  | fault (f : Fault)
  deriving Repr, Inhabited

namespace Failure

def errors : Failure → List BuildError
  | .build e => [e]
  | .several _ errors => errors
  | .fault _ => []

def message : Failure → String
  | .build e => e.text
  | .several form errors => (BuildError.ofTexts (errors.map (·.text)) form).text
  | .fault f => f.message

/-- The failure with a build error, which is put into words when it arises. -/
def ofError (e : BuildError) : Failure :=
  if e.renders then .build e else .fault .nameNotText

end Failure

structure Collector where
  form : Value
  failFast : Bool
  errors : List BuildError
  deriving Repr, Inhabited

namespace Collector

def new (form : Value) (failFast : Bool) : Collector :=
  { form, failFast, errors := [] }

/-- A collector with one more error, which learns its form, field and attribute. If the collector
is to stop at the first error, there is no collector any more. -/
def add (c : Collector) (e : BuildError) (field attributeText : Value) :
    Except Failure Collector :=
  let e := e.withContext c.form field attributeText
  if !e.renders then .error (.fault .nameNotText)
  else if c.failFast then .error (.build e)
  else .ok { c with errors := c.errors ++ [e] }

def conclude (c : Collector) : Except Failure Unit :=
  match c.errors with
  | [] => .ok ()
  | [e] => .error (.build e)
  | errors => .error (.several c.form errors)

end Collector

end FormCheck
