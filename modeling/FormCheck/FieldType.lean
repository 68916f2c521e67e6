import FormCheck.Text.Blank
import FormCheck.Text.Identifier
import FormCheck.Value

/-! # Field types

A field type is a base name and whether the field may be left empty. A written name is a dotted
identifier with at most one mark of optionality, `int?` or `Optional[int]`; a few names are other
spellings of a base.
-/

namespace FormCheck

structure FieldType where
  base : String
  optional : Bool
  deriving DecidableEq, Repr, Inhabited

/-- Why a declared type is none. One that is refused may have no written form to be named by. -/
inductive TypeFlaw where
  | unsupported (written : String)
  | unsupportedUnion (written : String)
  | unwritable
  | unhashable
  deriving DecidableEq, Repr, Inhabited

def TypeFlaw.message : TypeFlaw → String
  | .unsupported written => s!"unsupported field type `{written}`"
  | .unsupportedUnion written => s!"unsupported union field type `{written}`"
  | .unwritable => Number.tooLongText none
  | .unhashable => "unhashable field type"

namespace FieldType

def aliases : List (String × String) :=
  [("str", "str"), ("string", "str"), ("int", "int"), ("integer", "int"), ("float", "float"),
   ("decimal", "decimal"), ("Decimal", "decimal"), ("bool", "bool"), ("boolean", "bool"),
   ("any", "any"), ("Any", "any")]

def bracketOpening : List Char := "Optional[".toList

/-- A stripped name without its mark of optionality, and whether there was one. -/
def unmark (name : List Char) : List Char × Bool :=
  if name.getLast? = some '?' then (Text.stripList name.dropLast, true)
  else if bracketOpening.isPrefixOf name && name.getLast? = some ']' then
    (Text.stripList (name.drop bracketOpening.length).dropLast, true)
  else (name, false)

def isTypeName (name : List Char) : Bool :=
  Text.isIdentifierList (name.map fun c => if c = '.' then '_' else c)

def ofName (name : String) : Except TypeFlaw FieldType :=
  let (text, optional) := unmark (Text.stripList name.toList)
  let written := String.ofList text
  match aliases.lookup written with
  | some base => .ok ⟨base, optional⟩
  | none => if isTypeName text then .ok ⟨written, optional⟩ else .error (.unsupported name)

def text (t : FieldType) : String :=
  if t.optional then s!"Optional[{t.base}]" else t.base

def isNumeric (t : FieldType) : Bool :=
  t.base == "int" || t.base == "float" || t.base == "decimal"

def isString (t : FieldType) : Bool :=
  t.base == "str"

/-- Whether a value is a bound of exactly the kind of a type; a truth value never is. -/
def acceptsBound (t : FieldType) : Value → Bool
  | .int _ => t.base == "int"
  | .float _ => t.base == "float"
  | .decimal _ => t.base == "decimal"
  | _ => false

end FieldType

end FormCheck
