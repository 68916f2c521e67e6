import FormCheck.Rule

/-! # Outcomes of a check

An outcome lists every rule that an instance violates, field after field and rule after rule.
-/

namespace FormCheck

structure Violation where
  field : String
  kind : RuleKind
  message : String
  arguments : List (Value × Value)
  deriving Repr, Inhabited

def Violation.text (v : Violation) : String :=
  v.field ++ ": " ++ v.message

def Violation.equal? (v w : Violation) : Option Bool :=
  if v.field = w.field ∧ v.kind = w.kind ∧ v.message = w.message then
    Value.equal? (.map v.arguments) (.map w.arguments)
  else some false

structure Outcome where
  form : String
  violations : List Violation
  deriving Repr, Inhabited

namespace Outcome

def valid (o : Outcome) : Bool :=
  o.violations.isEmpty

def violationsOf (o : Outcome) (field : String) : List Violation :=
  o.violations.filter fun v => v.field == field

def firsts : List String → List String
  | [] => []
  | s :: rest => s :: (firsts rest).filter (· != s)

def failedFields (o : Outcome) : List String :=
  firsts (o.violations.map (·.field))

end Outcome

end FormCheck
