import FormCheck.CommandLine.Request
import FormCheck.CommandLine.Session
import FormCheck.Form.Log
import FormCheck.Json.Writer
import FormCheck.Report
import FormCheck.Settings

/-! # The command line

Two commands: one checks declarations and shows the rules of their forms, the other validates an
instance against one of the forms. The exit code is zero where nothing is wrong, one where an
instance violates rules, and two where settings, declarations, form or instance cannot be used.
Where a session is cut short, the exit code is one as well.
-/

namespace FormCheck.CommandLine
open Session

/-! ## Settings -/

/-- Whether a session has words for a flaw; it is cut short by one without. -/
def reportsSettings : Settings.Flaw → Bool
  | .json _ _ .halfPair => false
  | _ => true

def setUp (disk : Disk) (options : Options) : Session (Settings × OutputFormat) :=
  match Settings.load disk options.settings with
  | .error flaw =>
    if reportsSettings flaw then refuse flaw.message flaw.quoted
    else stop (.escape (.settings flaw))
  | .ok settings =>
    match options.format with
    | none => pure (settings, settings.format)
    | some "" => pure (settings, settings.format)
    | some name =>
      match OutputFormat.ofText? name with
      | some format => pure (settings, format)
      | none =>
        let all := ", ".intercalate (OutputFormat.all.map (·.text))
        refuse s!"Invalid format '{name}'. Must be one of: {all}" none

/-! ## Forms -/

def reportsFault : Fault → Bool
  | .conflictingModes => true
  | .integerTooLong _ => true
  | .formRepeated _ => true
  | _ => false

def reportsYaml : Yaml.Flaw → Bool
  | .unknownTruth _ => false
  | .emptyNumber => false
  | .notAMoment => false
  | .notAText => false
  | .doubleTooLarge => false
  | .endless => false
  | .tooDeep => false
  | .halfPair => false
  | .code n => n < 2147483648
  | _ => true

def reportsLoad : LoadFailure → Bool
  | .beyondData => false
  | .directory => false
  | .json _ _ (.tooDeep _) => false
  | .json _ _ .halfPair => false
  | .yaml _ flaw => reportsYaml flaw
  | _ => true

def quotedLoad : LoadFailure → Option (List Issue)
  | .yaml _ .malformed => some []
  | _ => none

def quotedBuild (f : Failure) : Option (List Issue) :=
  f.errors.findSome? fun e =>
    match e.cause with
    | .malformed (.document issues) => some (issues.getD [])
    | _ => none

def errorRow (e : BuildError) : List String :=
  [e.cause.className, e.form.text?.getD "", e.field.text?.getD "", e.attributeText.text?.getD "",
    e.cause.message]

def isWritable (f : Failure) : Bool :=
  f.errors.all fun e =>
    match e.form with
    | .bytes _ => false
    | .set _ => false
    | _ => true

def refuseBuild {α : Type} (f : Failure) (format : OutputFormat) : Session α := do
  match format with
  | .json =>
    if isWritable f then emit (.plain (Json.writeIndented f.report))
    else stop (.escape .unwritable)
  | .table =>
    emit (.table "Build Errors" ["Error", "Form", "Field", "Attribute", "Message"]
      (f.errors.map errorRow))
  quote (quotedBuild f)
  stop (.exit unusableCode)

def refuseFailure {α : Type} (f : Failure) (format : OutputFormat) : Session α :=
  match f with
  | .fault fault =>
    if reportsFault fault then refuse fault.message none else stop (.escape (.fault fault))
  | f => refuseBuild f format

def refuseLoad {α : Type} (f : LoadFailure) (format : OutputFormat) : Session α :=
  match f with
  | .form failure => refuseFailure failure format
  | f => if reportsLoad f then refuse f.message (quotedLoad f) else stop (.escape (.load f))

def buildForms (disk : Disk) (path : String) (settings : Settings) (format : OutputFormat) :
    Session (List (Value × Form)) :=
  match FormDeclaration.load disk path with
  | .error f => refuseLoad f format
  | .ok ds => do
    logAll settings.level
      [⟨.debug, s!"Loaded {ds.length} form declaration(s) from {Path.normal path}"⟩]
    logAll settings.level (FormDeclaration.recordsAll ds settings.failFast)
    match FormDeclaration.buildAll ds settings.failFast with
    | .error f => refuseFailure f format
    | .ok forms => pure forms

def namesText (forms : List (Value × Form)) : String :=
  ", ".intercalate (forms.map fun f => f.1.shown)

/-! ## Checking declarations -/

def fieldRow (f : FieldSpec) : List String :=
  let rules := ", ".intercalate (f.rules.map (·.describe))
  [f.name, f.type.text ++ (if f.optional then " (optional)" else ""),
    if rules.isEmpty then "[dim]none[/dim]" else rules]

def patternText (e : Entry) : String :=
  e.identifier ++ " = " ++ Text.quoted e.pattern

def showForm (f : Form) : Session Unit := do
  emit (.table f.spec.name ["Field", "Type", "Rules"] (f.spec.fields.map fieldRow))
  let patterns := f.spec.registry.declared
  if patterns.isEmpty then pure ()
  else say ("[blue]Patterns:[/blue] " ++ ", ".intercalate (patterns.map patternText))

def check (disk : Disk) (declarations : String) (options : Options) : Session Unit := do
  let (settings, format) ← setUp disk options
  let forms ← buildForms disk declarations settings format
  match format with
  | .json =>
    let reports := forms.map fun f => f.2.spec.report
    emit (.plain (Json.writeIndented (Report.entries [("forms", .list reports)])))
  | .table => do
    forms.forM fun f => showForm f.2
    say s!"\n[green]Compiled {forms.length} form(s)[/green]"

/-! ## Validating an instance -/

def chooseForm (forms : List (Value × Form)) (name : Option String) : Session Form :=
  match name, forms with
  | none, [(_, form)] => pure form
  | none, forms => refuse s!"Several forms declared, use --form: {namesText forms}" none
  | some name, forms =>
    match forms.find? fun f => f.1.text? == some name with
    | some (_, form) => pure form
    | none => refuse s!"Form '{name}' not found. Available forms: {namesText forms}" none

def readCandidate (disk : Disk) (path : String) : Session Value := do
  let shown := Path.normal path
  match disk.state path with
  | .missing => refuse s!"Instance file not found: {shown}" none
  | .beyondData => stop (.escape (.load .beyondData))
  | .directory => stop (.escape (.load .directory))
  | .data bytes =>
    match readJson (disk.depth path) shown bytes with
    | .ok (.map entries) => pure (.map entries)
    | .ok _ => refuse "Instance must be a JSON object" none
    | .error (.json path text (.malformed reason position)) =>
      let place := reason.textAt text.toList position
      refuse s!"Invalid JSON in instance file {path}: {place}" none
    | .error f => stop (.escape (.load f))

def violationRow (v : Violation) : List String :=
  [v.field, v.kind.text, v.message]

def passingFields (f : Form) (o : Outcome) : List String :=
  f.spec.fieldNames.filter fun name => !o.failedFields.contains name

def showOutcome (f : Form) (o : Outcome) (format : OutputFormat) (showPassing : Bool) :
    Session Unit :=
  match format with
  | .json => emit (.plain (Json.writeIndented o.report))
  | .table => do
    if o.valid then say s!"[green]{o.form}: valid[/green]"
    else emit (.table s!"{o.form}: {o.violations.length} error(s)" ["Field", "Rule", "Message"]
      (o.violations.map violationRow))
    if showPassing then
      let passing := passingFields f o
      let names := if passing.isEmpty then "none" else ", ".intercalate passing
      say s!"[dim]Passing fields:[/dim] {names}"

def validate (disk : Disk) (declarations candidate : String) (name : Option String)
    (options : Options) : Session Unit := do
  let (settings, format) ← setUp disk options
  let forms ← buildForms disk declarations settings format
  let form ← chooseForm forms name
  let value ← readCandidate disk candidate
  match form.check value with
  | .error fault => stop (.escape (.fault fault))
  | .ok outcome => do
    showOutcome form outcome format settings.showPassing
    stop (.exit (if outcome.valid then validCode else invalidCode))

/-! ## Requests -/

def versionText : String := "formrules version 0.1.0"

def answer (disk : Disk) : Request → Session Unit
  | .misuse => stop (.exit unusableCode)
  | .help => pure ()
  | .version => say versionText
  | .check declarations options => check disk declarations options
  | .validate declarations candidate name options =>
    validate disk declarations candidate name options

def run (console : Console) (disk : Disk) (arguments : List String) : SessionResult :=
  Session.result console (answer disk (Request.read arguments))

end FormCheck.CommandLine
