import FormCheck.Registry

/-! # Form specifications

What a declaration comes to once it is read: every field with its type and its rules in declared
order, and the registry of the form's patterns. A specification is resolved once every reference
of its rules is known to hold.
-/

namespace FormCheck

structure FieldSpec where
  name : String
  type : FieldType
  rules : List Rule
  optional : Bool
  deriving Repr, Inhabited

def FieldSpec.skipsNull (f : FieldSpec) : Bool :=
  f.optional || f.type.optional

structure FormSpec where
  name : String
  fields : List FieldSpec
  registry : Registry
  resolved : Bool
  deriving Repr, Inhabited

namespace FormSpec

def field? (s : FormSpec) (name : String) : Option FieldSpec :=
  s.fields.find? fun f => f.name == name

def fieldNames (s : FormSpec) : List String :=
  s.fields.map (·.name)

def ruleCount (s : FormSpec) : Nat :=
  (s.fields.flatMap (·.rules)).length

end FormSpec

end FormCheck
