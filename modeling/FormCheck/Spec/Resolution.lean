import FormCheck.Spec

/-! # Resolving specifications

A specification is resolved once the type of every field suits its rules, every named pattern that a
rule refers to is declared, and every field that another one has to equal is there and of the same
type. Resolving changes nothing but the references: it puts the registry's entries into the rules.
-/

namespace FormCheck

namespace FormSpec

def resolveRule (s : FormSpec) (f : FieldSpec) (rule : Rule) : Except Cause Rule :=
  if rule.kind.needsText && !f.type.isString && f.type.base != "any" then
    .error (.typeMismatch (.needsText rule.kind f.name f.type))
  else match rule with
    | .minValue bound => resolveBound bound
    | .maxValue bound => resolveBound bound
    | .compiledRegex identifier _ =>
      match s.registry.find? identifier with
      | some entry => .ok (.compiledRegex identifier (some entry))
      | none => .error (.unknownPatternReference identifier)
    | .matchField target =>
      if target == f.name then
        .error (.unknownMatchTarget target (some "validate_match cannot target its own field"))
      else match s.field? target with
        | none => .error (.unknownMatchTarget target none)
        | some other =>
          if other.type == f.type then .ok rule
          else .error (.typeMismatch (.targetType f.name f.type other.name other.type))
    | _ => .ok rule
where
  resolveBound (bound : Number.Numeral) : Except Cause Rule :=
    if !f.type.isNumeric then .error (.typeMismatch (.needsNumber rule.kind f.name f.type))
    else if !f.type.acceptsBound bound.value then
      .error (.typeMismatch (.boundKind rule.kind bound f.name f.type))
    else .ok rule

def resolveRules (s : FormSpec) (f : FieldSpec) :
    List Rule → Collector → Except Failure (List Rule × Collector)
  | [], errors => .ok ([], errors)
  | rule :: rest, errors =>
    match s.resolveRule f rule with
    | .ok resolved => do
      let (rules, errors) ← resolveRules s f rest errors
      pure (resolved :: rules, errors)
    | .error cause => do
      let errors ← errors.add (BuildError.ofCause cause) (.text f.name) (.text rule.describe)
      resolveRules s f rest errors

def resolveFields (s : FormSpec) :
    List FieldSpec → Collector → Except Failure (List FieldSpec × Collector)
  | [], errors => .ok ([], errors)
  | f :: rest, errors => do
    let (rules, errors) ← s.resolveRules f f.rules errors
    let (fields, errors) ← resolveFields s rest errors
    pure ({ f with rules } :: fields, errors)

def resolve (s : FormSpec) (failFast : Bool) : Except Failure FormSpec :=
  if s.resolved then .ok s
  else do
    let (fields, errors) ← s.resolveFields s.fields (.new (.text s.name) failFast)
    errors.conclude
    pure { s with fields, resolved := true }

end FormSpec

end FormCheck
