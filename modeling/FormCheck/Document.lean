import FormCheck.Declaration
import FormCheck.Document.Checked
import FormCheck.Failure
import FormCheck.Number.Decimal.Reader
import FormCheck.Number.Double.Text

/-! # Form documents

A form can be described by a document: a mapping with the name of the form, its patterns and its
fields, which are a list or a mapping by name. A document that has the right shape is made
into a declaration; a document that has not is refused with all issues of its shape.
-/

namespace FormCheck

inductive ValidatorDocument where
  | flag (name : String)
  | keyed (entries : List (String × Value))
  deriving Repr, Inhabited

structure FieldDocument where
  name : String
  type : String
  validators : List ValidatorDocument
  targets : List String
  deriving Repr, Inhabited

structure FormDocument where
  name : String
  patterns : List (String × String)
  fields : List FieldDocument
  deriving Repr, Inhabited

namespace Document

/-! ## Shape -/

def checkValidator (v : Value) : Checked ValidatorDocument :=
  match checkText v, checkMapping Except.ok v with
  | .ok name, _ => .ok (.flag name)
  | _, .ok entries => .ok (.keyed entries)
  | .error text, .error mapping =>
    .error (text.map (·.under (.text "str")) ++ mapping.map (·.under (.text "dict[str,any]")))

def wrapSingle (v : Value) : Value :=
  match v.opened with
  | .null => .list []
  | .text s => .list [.text s]
  | .map _ => .list [v]
  | _ => v

def validatorsKey (entries : List (Value × Value)) : String :=
  if (Value.field? entries "validate").isSome then "validate"
  else if (Value.field? entries "validators").isSome then "validators"
  else "validate"

def checkField (v : Value) : Checked FieldDocument :=
  match v.opened with
  | .map entries =>
    let key := validatorsKey entries
    let name := checkRequired entries "name" checkText
    let type := checkOptional entries "type" "str" checkText
    let validators := checkOptional entries key [] fun v => checkList checkValidator (wrapSingle v)
    let targets := checkOptional entries "validate_match" [] fun v =>
      checkList checkText (wrapSingle v)
    let known := checkKnown ["name", "type", key, "validate_match"] entries
    (name.both (type.both (validators.both (targets.both known)))).map
      fun (name, type, validators, targets, _) => { name, type, validators, targets }
  | _ => Checked.fail .notRecord

/-- The fields of a document as a list. Fields given by name may have null or another empty value
for an entry, and an entry may name its field anew; an entry that is something else stops the
reading. -/
def listFields (v : Value) : Option Value :=
  match v.opened with
  | .map entries => do
    let fields ← entries.mapM fun e =>
      match e.2.opened with
      | .map spec => some (Value.ofPairs ((.text "name", e.1) :: spec))
      | v => if v.truthy then none else some (Value.map [(.text "name", e.1)])
    pure (.list fields)
  | _ => some v

def withListedFields (entries : List (Value × Value)) : Option (List (Value × Value)) :=
  entries.mapM fun e =>
    if e.1.text? == some "fields" then (listFields e.2).map fun v => (e.1, v)
    else some e

def checkForm (entries : List (Value × Value)) : Checked FormDocument :=
  let name := checkRequired entries "name" checkText
  let patterns := checkOptional entries "validate_regex" [] (checkMapping checkText)
  let fields := checkOptional entries "fields" [] (checkList checkField)
  let known := checkKnown ["name", "validate_regex", "fields"] entries
  (name.both (patterns.both (fields.both known))).map
    fun (name, patterns, fields, _) => { name, patterns, fields }

/-- The form that a document describes. What stops the reading has no issues; otherwise all issues
are given. -/
def read (v : Value) : Except (Option (List Issue)) FormDocument :=
  match v.opened with
  | .map entries =>
    if entries.all fun e => e.1.text?.isSome then
      match withListedFields entries with
      | some entries => (checkForm entries).mapError some
      | none => .error none
    else .error none
  | _ => .error none

end Document

/-! ## Declarations -/

namespace Document

/-- The bound of a decimal field. Numbers are taken by their shortest text, which they have to have,
and texts that write a decimal as that decimal. -/
def decimalBound (key : String) (v : Value) : Except Fault Value :=
  if key == "min_value" || key == "max_value" then
    match v with
    | .int i =>
      if Number.isWritable i then .ok (.decimal (.ofInt i)) else .error (.integerTooLong none)
    | .float d => .ok (((Number.Decimal.read? d.text).map Value.decimal).getD v)
    | .text s => .ok (((Number.Decimal.read? s).map Value.decimal).getD v)
    | v => .ok v
  else .ok v

def isDecimalType (name : String) : Bool :=
  match FieldType.ofName name with
  | .ok t => t.base == "decimal"
  | .error _ => false

end Document

def ValidatorDocument.toAttribute (v : ValidatorDocument) (decimal : Bool) :
    Except Fault Attribute :=
  match v with
  | .flag name => .ok (.validate [.text name] [])
  | .keyed entries => do
    let options ← entries.mapM fun e => do
      let argument ← if decimal then Document.decimalBound e.1 e.2 else pure e.2
      pure (Value.text e.1, argument)
    pure (.validate [] options)

def FieldDocument.declaration (f : FieldDocument) : Except Fault FieldDeclaration := do
  let decimal := Document.isDecimalType f.type
  let validators ← f.validators.mapM (·.toAttribute decimal)
  let targets := f.targets.map fun t => Attribute.validateMatch [.text t]
  pure
    { name := .text f.name, type := .named f.type
      attributes := (validators ++ targets).map Metadatum.attr }

def FormDocument.declaration (d : FormDocument) : Except Fault FormDeclaration := do
  let patterns := d.patterns.map fun p => (Value.text p.1, Value.text p.2)
  let fields ← d.fields.mapM (·.declaration)
  pure
    { name := .text d.name
      attributes := if patterns.isEmpty then [] else [.attr (.validateRegex patterns)]
      fields }

namespace Document

def nameOf (v : Value) : Value :=
  match v.opened with
  | .map entries => (Value.field? entries "name").getD .null
  | _ => .null

def declaration (v : Value) : Except Failure FormDeclaration :=
  match read v with
  | .ok d => d.declaration.mapError .fault
  | .error issues =>
    .error (Failure.ofError (.inForm (nameOf v) (.malformed (.document issues))))

end Document

end FormCheck
