import FormCheck.Value.Literal

/-! # Attributes

An attribute is what stands beside a form or a field in a declaration: a name with arguments and
options, as in `validate(email, min_length = 3)`. Nothing about it is checked before a form is
built, so its parts may be any values. Where attributes are expected, other values may stand too.
-/

namespace FormCheck

structure Attribute where
  name : Value
  arguments : List Value
  options : List (Value × Value)
  deriving Repr, Inhabited

inductive Metadatum where
  | attr (a : Attribute)
  | other (v : Value)
  deriving Repr, Inhabited

namespace Attribute

def argumentText : Value → String
  | .text s => s
  | v => v.literal

def text (a : Attribute) : String :=
  let parts := a.arguments.map argumentText ++
    a.options.map fun o => o.1.shown ++ " = " ++ o.2.literal
  a.name.shown ++ "(" ++ ", ".intercalate parts ++ ")"

def isWritable (a : Attribute) : Bool :=
  a.name.isWritable && Value.allWritable a.arguments && Value.entriesWritable a.options

def literal (a : Attribute) : String :=
  let options := a.options.map fun o => Value.tuple [o.1, o.2]
  "Attribute(name=" ++ a.name.literal ++ ", args=" ++ (Value.tuple a.arguments).literal ++
    ", kwargs=" ++ (Value.tuple options).literal ++ ")"

def hashable (a : Attribute) : Bool :=
  a.name.hashable && Value.allHashable a.arguments &&
    a.options.all fun o => o.1.hashable && o.2.hashable

def same (a b : Attribute) : Bool :=
  Value.sameKey
    (.tuple [a.name, .tuple a.arguments, .tuple (a.options.map fun o => .tuple [o.1, o.2])])
    (.tuple [b.name, .tuple b.arguments, .tuple (b.options.map fun o => .tuple [o.1, o.2])])

def isNamed (a : Attribute) (name : String) : Bool :=
  a.name.text? == some name

/-! ## Ready attributes -/

/-- Options given by keyword: keys are texts, and a repeated key keeps its place and takes the
last value. Nothing if a key is no text. -/
def keywords? (options : List (Value × Value)) : Option (List (Value × Value)) :=
  if options.all fun o => o.1.text?.isSome then
    some (options.foldl (fun entries o => Value.insertEntry entries o.1 o.2) [])
  else none

def validate (flags : List Value) (options : List (Value × Value)) : Attribute :=
  { name := .text "validate", arguments := flags, options }

def validateMatch (targets : List Value) : Attribute :=
  { name := .text "validate_match", arguments := targets, options := [] }

def validateRegex (patterns : List (Value × Value)) : Attribute :=
  { name := .text "validate_regex", arguments := [], options := patterns }

end Attribute

namespace Metadatum

def attribute? : Metadatum → Option Attribute
  | .attr a => some a
  | .other _ => none

def literal : Metadatum → String
  | .attr a => a.literal
  | .other v => v.literal

def isWritable : Metadatum → Bool
  | .attr a => a.isWritable
  | .other v => v.isWritable

def hashable : Metadatum → Bool
  | .attr a => a.hashable
  | .other v => v.hashable

def same : Metadatum → Metadatum → Bool
  | .attr a, .attr b => a.same b
  | .other v, .other w => v.sameKey w
  | _, _ => false

end Metadatum

end FormCheck
