import FormCheck.Failure
import FormCheck.Form

/-! # Reports

Specifications, outcomes and build errors as plain data: mappings under text keys whose leaves are
texts, numbers and truth values.
-/

namespace FormCheck

namespace Report

def entries (fields : List (String × Value)) : Value :=
  .map (fields.map fun f => (.text f.1, f.2))

def isLeaf : Value → Bool
  | .text _ => true
  | .int _ => true
  | .float _ => true
  | .bool _ => true
  | _ => false

def leaf (v : Value) : Value :=
  if isLeaf v then v else .text v.shown

def leafOrNull (v : Value) : Value :=
  if v.isNull then .null else leaf v

end Report

open Report

def Rule.report (r : Rule) : Value :=
  entries
    [("kind", .text r.kind.text),
     ("arguments", entries (r.arguments.map fun a => (a.1, leafOrNull a.2)))]

def FieldSpec.report (f : FieldSpec) : Value :=
  entries
    [("name", .text f.name),
     ("type", .text f.type.text),
     ("optional", .bool f.skipsNull),
     ("rules", .list (f.rules.map (·.report)))]

def FormSpec.report (s : FormSpec) : Value :=
  entries
    [("name", .text s.name),
     ("resolved", .bool s.resolved),
     ("patterns", entries (s.registry.declared.map fun e => (e.identifier, .text e.pattern))),
     ("fields", .list (s.fields.map (·.report)))]

def Violation.report (v : Violation) : Value :=
  entries
    [("field", .text v.field),
     ("rule", .text v.kind.text),
     ("message", .text v.message),
     ("arguments", .map (v.arguments.map fun a => (a.1, leaf a.2)))]

def Outcome.report (o : Outcome) : Value :=
  entries
    [("form", .text o.form),
     ("valid", .bool o.valid),
     ("errors", .list (o.violations.map (·.report)))]

def Cause.className : Cause → String
  | .described _ => "FormBuildError"
  | .malformed _ => "MalformedDeclaration"
  | .duplicateIdentifier _ => "DuplicateIdentifier"
  | .invalidPattern .. => "InvalidPattern"
  | .unknownIdentifier _ => "UnknownIdentifier"
  | .unknownPatternReference _ => "UnknownPatternReference"
  | .unknownMatchTarget .. => "UnknownMatchTarget"
  | .typeMismatch _ => "TypeMismatch"
  | .several _ => "FormBuildErrors"

def Cause.extraEntries : Cause → List (String × Value)
  | .typeMismatch m => [("mismatch", m.sides)]
  | _ => []

def Report.several (form : Value) (errors : List Value) : Value :=
  entries [("error", .text "FormBuildErrors"), ("form", form), ("errors", .list errors)]

def BuildError.report (e : BuildError) : Value :=
  match e.cause with
  | .several texts => Report.several e.form (texts.map .text)
  | cause =>
    entries
      ([("error", .text cause.className),
        ("message", cause.detail),
        ("form", e.form),
        ("field", e.field),
        ("attribute", e.attributeText)] ++ cause.extraEntries)

def Failure.report : Failure → Value
  | .build e => e.report
  | .several form errors => Report.several form (errors.map (·.report))
  | .fault _ => .null

end FormCheck
