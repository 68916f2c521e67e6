import FormCheck.Declaration
import FormCheck.Spec

/-! # Reading declarations

A declaration is read into a specification whose references are still open. The patterns of the form
are read first, then field after field; every validator is checked by itself. An attribute that is
malformed adds no rule, and is reported with its text.
-/

namespace FormCheck

structure Progress where
  registry : Registry
  errors : Collector
  deriving Repr, Inhabited

/-- A step of reading. What it registered and reported before it failed stays. -/
abbrev Reading := EStateM Failure Progress

namespace Reading

def report (e : BuildError) (field attributeText : Option String) : Reading Unit := do
  let p ← get
  match p.errors.add e (.ofText? field) (.ofText? attributeText) with
  | .ok errors => set { p with errors }
  | .error f => throw f

def reportMalformed (m : Malformed) (field attributeText : Option String) : Reading Unit :=
  report (BuildError.malformed m) field attributeText

def refuse {α : Type} (m : Malformed) : Reading α :=
  throw (.build (BuildError.malformed m))

def checkLiteral (v : Value) : Reading Unit :=
  if v.isWritable then pure () else throw (.fault (.integerTooLong none))

def reportQuoting (m : Value → Malformed) (v : Value) (field : Option String) : Reading Unit := do
  checkLiteral v
  reportMalformed (m v) field none

def onRegistry {α : Type} (work : Registry.Action α) : Reading α := fun p =>
  match work p.registry with
  | .ok a registry => .ok a { p with registry }
  | .error f registry => .error f { p with registry }

/-- A step whose build error is reported; nothing comes of it then. -/
def reporting {α : Type} (step : Reading α) (field attributeText : Option String) :
    Reading (Option α) := fun p =>
  match step p with
  | .ok a p => .ok (some a) p
  | .error (.build e) p => (do report e field attributeText; pure none : Reading (Option α)) p
  | .error f p => .error f p

def checkWritable (a : Attribute) : Reading Unit :=
  if a.isWritable then pure () else throw (.fault (.integerTooLong none))

/-! ## Attributes of the form -/

def readPattern (attributeText : String) (option : Value × Value) : Reading Unit :=
  match option with
  | (.text identifier, pattern) =>
    if !Text.isIdentifier identifier then
      reportMalformed (.patternIdentifier identifier) none (some attributeText)
    else match pattern with
      | .text pattern => do
        let _ ← reporting (onRegistry (Registry.declare identifier pattern)) none
          (some attributeText)
      | _ => reportMalformed .patternNotText none (some attributeText)
  | _ => throw (.fault .identifierNotText)

def readFormAttribute : Metadatum → Reading Unit
  | .other v => reportQuoting .formAttribute v none
  | .attr a => do
    checkWritable a
    let written := some a.text
    if !a.isNamed "validate_regex" then
      reportMalformed (.notAFormAttribute a.name) none written
    else do
      if !a.arguments.isEmpty then reportMalformed .patternArguments none written
      if a.options.isEmpty && a.arguments.isEmpty then reportMalformed .noPattern none written
      a.options.forM (readPattern a.text)

/-! ## Attributes of fields -/

def flags : List String := ["email", "phone", "optional"]

def keyed : List String :=
  ["min_length", "max_length", "min_value", "max_value", "regex", "compiled_regex"]

def readFlag (flag : Value) : Except Malformed (Option Rule) :=
  match flag with
  | .text "email" => .ok (some .email)
  | .text "phone" => .ok (some .phone)
  | .text "optional" => .ok none
  | .text name => if keyed.contains name then .error (.missingArgument name)
    else .error (.unknownValidator flag)
  | _ => .error (.flag flag)

def lengthArgument? : Value → Option Int
  | .int n => if 0 ≤ n then some n else none
  | _ => none

def boundArgument? : Value → Option Number.Numeral
  | .int i => some (.int i)
  | .float d => some (.double d)
  | .decimal d => some (.decimal d)
  | _ => none

def readLength (name : String) (make : Int → Rule) (argument : Value) : Reading Rule :=
  match lengthArgument? argument with
  | some n => pure (make n)
  | none => refuse (.lengthArgument name)

def readBound (name : String) (make : Number.Numeral → Rule) (argument : Value) : Reading Rule :=
  match boundArgument? argument with
  | some bound => pure (make bound)
  | none => refuse (.valueArgument name)

def readOption (field : String) (option : Value × Value) : Reading Rule :=
  match option with
  | (.text name, argument) =>
    match name with
    | "min_length" => readLength name .minLength argument
    | "max_length" => readLength name .maxLength argument
    | "min_value" => readBound name .minValue argument
    | "max_value" => readBound name .maxValue argument
    | "regex" =>
      match argument with
      | .text pattern => do
        let entry ← onRegistry (Registry.declareLocal field pattern)
        pure (.regex pattern (some entry))
      | _ => refuse (.textArgument name)
    | "compiled_regex" =>
      match argument with
      | .text identifier =>
        if Text.isIdentifier identifier then pure (.compiledRegex identifier none)
        else refuse (.referenceIdentifier identifier)
      | _ => refuse (.textArgument name)
    | _ =>
      if flags.contains name then refuse (.needlessArgument name)
      else refuse (.unknownValidator (.text name))
  | (key, _) =>
    if key.hashable then refuse (.unknownValidator key) else throw (.fault .unhashable)

def ofCheck {α : Type} (check : Except Malformed α) : Reading α :=
  match check with
  | .ok a => pure a
  | .error m => refuse m

def readValidate (field : String) (a : Attribute) : Reading (List Rule × Bool) := do
  if a.arguments.isEmpty && a.options.isEmpty then refuse .noValidator
  let flagged ← ofCheck (a.arguments.mapM readFlag)
  let optioned ← a.options.mapM (readOption field)
  pure (flagged.filterMap id ++ optioned, flagged.any (·.isNone))

def readMatch (a : Attribute) : Except Malformed Rule :=
  if !a.options.isEmpty then .error .matchOptions
  else match a.arguments with
    | [.text target] =>
      if Text.isIdentifier target then .ok (.matchField target)
      else .error (.matchTarget (.text target))
    | [target] => .error (.matchTarget target)
    | targets => .error (.matchCount targets.length)

def readAttribute (field : String) (a : Attribute) : Reading (List Rule × Bool) :=
  match a.name with
  | .text "validate" => readValidate field a
  | .text "validate_match" => do
    let rule ← ofCheck (readMatch a)
    pure ([rule], false)
  | .text "validate_regex" => refuse .patternsOnField
  | name => refuse (.unknownAttribute name)

def readMetadatum (field : String) : Metadatum → Reading (List Rule × Bool)
  | .other v => do
    reportQuoting .fieldAttribute v (some field)
    pure ([], false)
  | .attr a => do
    checkWritable a
    let read ← reporting (readAttribute field a) (some field) (some a.text)
    pure (read.getD ([], false))

/-! ## Fields and forms -/

def identifier? (name : Value) : Option String :=
  name.text?.filter Text.isIdentifier

def readField (d : FieldDeclaration) : Reading (Option FieldSpec) :=
  match identifier? d.name with
  | none => do
    reportQuoting .fieldName d.name none
    pure none
  | some name =>
    match FieldType.ofExpr d.type with
    | .error .unhashable => throw (.fault .unhashable)
    | .error flaw => do
      reportMalformed (.fieldType flaw) (some name) none
      pure none
    | .ok type => do
      let read ← d.attributes.mapM (readMetadatum name)
      pure (some { name, type, rules := read.flatMap (·.1), optional := read.any (·.2) })

def readNextField (fields : List FieldSpec) (d : FieldDeclaration) : Reading (List FieldSpec) := do
  match ← readField d with
  | none => pure fields
  | some f =>
    if fields.any fun g => g.name == f.name then do
      reportMalformed .fieldRepeated (some f.name) none
      pure fields
    else pure (fields ++ [f])

def conclude : Reading Unit := do
  let p ← get
  match p.errors.conclude with
  | .ok () => pure ()
  | .error f => throw f

def readForm (d : FormDeclaration) : Reading FormSpec := do
  if (identifier? d.name).isNone then reportQuoting .formName d.name none
  d.attributes.forM readFormAttribute
  let fields ← d.fields.foldlM readNextField []
  conclude
  let p ← get
  pure { name := d.name.shown, fields, registry := p.registry, resolved := false }

end Reading

def FormDeclaration.reading (d : FormDeclaration) (failFast : Bool) :
    EStateM.Result Failure Progress FormSpec :=
  Reading.readForm d { registry := .new d.name, errors := .new d.name failFast }

def FormDeclaration.read (d : FormDeclaration) (failFast : Bool) : Except Failure FormSpec :=
  match d.reading failFast with
  | .ok spec _ => .ok spec
  | .error f _ => .error f

end FormCheck
