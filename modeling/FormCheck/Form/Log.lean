import FormCheck.Form.Build
import FormCheck.LogRecord

/-! # The log of building forms

Building tells of each pattern that is registered, of each stage that a form has passed, and at last
of the form. What was told before a failure stays told.
-/

namespace FormCheck

def Entry.record (e : Entry) (scope : Value) : LogRecord :=
  let scopeText := if scope.truthy then scope.shown else "<anonymous>"
  ⟨.debug, s!"Registered pattern {Text.quoted e.identifier} in {scopeText}"⟩

namespace FormSpec

def readRecord (s : FormSpec) : LogRecord :=
  ⟨.debug, s!"Parsed {s.name}: {s.fields.length} field(s), {s.ruleCount} rule(s), " ++
    s!"{s.registry.entries.length} pattern(s)"⟩

def resolvedRecord (s : FormSpec) : LogRecord :=
  ⟨.debug, s!"Resolved {s.name}: {s.ruleCount} rule(s)"⟩

def checksRecord (s : FormSpec) : LogRecord :=
  ⟨.debug, s!"Generated {s.ruleCount} check(s) for {s.name}"⟩

def builtRecord (s : FormSpec) : LogRecord :=
  ⟨.info, s!"Compiled form {s.name}: {s.fields.length} field(s), {s.ruleCount} rule(s)"⟩

end FormSpec

namespace FormDeclaration

def laterRecords (s : FormSpec) (failFast : Bool) : List LogRecord :=
  match s.resolve failFast with
  | .error _ => []
  | .ok s =>
    match Form.ofSpec s with
    | .error _ => [s.resolvedRecord]
    | .ok _ => [s.resolvedRecord, s.checksRecord, s.builtRecord]

def records (d : FormDeclaration) (failFast : Bool) : List LogRecord :=
  let registered := fun (p : Progress) => p.registry.entries.map (·.record d.name)
  match d.reading failFast with
  | .ok s p => registered p ++ s.readRecord :: laterRecords s failFast
  | .error _ p => registered p

def recordsAfter (failFast : Bool) : List Value → List FormDeclaration → List LogRecord
  | _, [] => []
  | names, d :: rest =>
    if !d.name.hashable || names.any (Value.sameKey d.name) then []
    else
      let more := match d.build failFast with
        | .ok _ => recordsAfter failFast (d.name :: names) rest
        | .error _ => []
      d.records failFast ++ more

def recordsAll (ds : List FormDeclaration) (failFast : Bool) : List LogRecord :=
  recordsAfter failFast [] ds

end FormDeclaration

end FormCheck
