import FormCheck.Form.Outcome
import FormCheck.Form.Test
import FormCheck.Spec

/-! # Forms

A form is a resolved specification with one check for each of its rules. Checking an instance reads
its fields in order and lists every rule that a value violates.
-/

namespace FormCheck

structure RuleCheck where
  rule : Rule
  test : Test

structure FieldCheck where
  name : String
  skipsNull : Bool
  checks : List RuleCheck

structure Form where
  spec : FormSpec
  checks : List FieldCheck

namespace RuleCheck

def ofRule (rule : Rule) : Except Fault RuleCheck := do
  let test ← Test.ofRule rule
  pure { rule, test }

def violation (c : RuleCheck) (field : String) : Violation :=
  { field
    kind := c.rule.kind
    message := c.rule.failureMessage
    arguments := c.rule.arguments.map fun a => (.text a.1, a.2) }

def run (c : RuleCheck) (field : String) (candidate : Value) : Except Fault (List Violation) := do
  let passed ← c.test.passes (candidate.read field) candidate
  pure (if passed then [] else [c.violation field])

end RuleCheck

namespace FieldCheck

def ofSpec (f : FieldSpec) : Except Fault FieldCheck := do
  let checks ← f.rules.mapM RuleCheck.ofRule
  pure { name := f.name, skipsNull := f.skipsNull, checks }

def run (f : FieldCheck) (candidate : Value) : Except Fault (List Violation) :=
  if (candidate.read f.name).isNull && f.skipsNull then .ok []
  else do
    let found ← f.checks.mapM fun c => c.run f.name candidate
    pure found.flatten

end FieldCheck

namespace Form

def ofSpec (s : FormSpec) : Except Fault Form :=
  if s.resolved then do
    let checks ← s.fields.mapM FieldCheck.ofSpec
    pure { spec := s, checks }
  else .error (.unresolved s.name)

def check (f : Form) (candidate : Value) : Except Fault Outcome := do
  let found ← f.checks.mapM fun c => c.run candidate
  pure { form := f.spec.name, violations := found.flatten }

def text (f : Form) : String :=
  "CompiledForm(" ++ Text.quoted f.spec.name ++ ", fields=" ++
    (Value.list (f.spec.fieldNames.map .text)).literal ++ ")"

end Form

end FormCheck
