import FormCheck.Disk
import FormCheck.Document.Checked
import FormCheck.Json.Reader
import FormCheck.LogRecord
import FormCheck.Text.Utf8

/-! # Settings

Whether building stops at the first error, how results are shown, and what is logged. Settings are
read from a file: the one that is given, or the nearest one in the working directory and above it.
What a file does not set has its default.
-/

namespace FormCheck

inductive OutputFormat where
  | table
  | json
  deriving DecidableEq, Repr, Inhabited

def OutputFormat.text : OutputFormat → String
  | .table => "table"
  | .json => "json"

def OutputFormat.all : List OutputFormat := [.table, .json]

def OutputFormat.ofText? (name : String) : Option OutputFormat :=
  OutputFormat.all.find? fun f => f.text == name

structure Settings where
  failFast : Bool
  format : OutputFormat
  showPassing : Bool
  level : LogLevel
  deriving DecidableEq, Repr, Inhabited

namespace Settings

def standard : Settings :=
  { failFast := false, format := .table, showPassing := false, level := .warn }

/-! ## Shape -/

def truthWords (b : Bool) : List String :=
  if b then ["1", "t", "y", "on", "yes", "true"] else ["0", "f", "n", "no", "off", "false"]

def checkWord (word : String) : Checked Bool :=
  let word := word.toLower
  if (truthWords true).contains word then .ok true
  else if (truthWords false).contains word then .ok false
  else Checked.fail .notTruth

/-- The bound of the whole numbers among which a truth value is looked for. -/
def wordBound : Int := Nat.pow 2 63

def checkInt (i : Int) : Checked Bool :=
  if i = 1 then .ok true
  else if i = 0 then .ok false
  else if -wordBound ≤ i ∧ i < wordBound then Checked.fail .notTruth
  else Checked.fail .noTruthKind

def wholeOf? : Number.Double → Option Int
  | .finite negative m e =>
    let magnitude? := if 0 ≤ e then some (m * Nat.pow 2 e.toNat)
      else if m % Nat.pow 2 (-e).toNat = 0 then some (m / Nat.pow 2 (-e).toNat)
      else none
    magnitude?.map fun n => if negative then -(n : Int) else n
  | _ => none

def checkDouble (d : Number.Double) : Checked Bool :=
  match wholeOf? d with
  | some i => if i = -wordBound then Checked.fail .noTruthKind else checkInt i
  | none => Checked.fail .noTruthKind

def checkTruth (v : Value) : Checked Bool :=
  match v with
  | .bool b => .ok b
  | .text s => checkWord s
  | .int i => checkInt i
  | .float d => checkDouble d
  | .decimal (.finite negative coefficient exponent) =>
    checkDouble (.ofDecimal negative coefficient exponent)
  | _ => Checked.fail .noTruthKind

def checkChoice {α : Type} (choices : List α) (name : α → String) (v : Value) : Checked α :=
  match v.text?.bind fun s => choices.find? fun c => name c == s with
  | some c => .ok c
  | none => Checked.fail .notAChoice

def checkSection {α : Type} (check : List (Value × Value) → Checked α) (v : Value) : Checked α :=
  match v with
  | .map entries => check entries
  | _ => Checked.fail .notRecord

def checkEither (entries : List (Value × Value)) (key other : String) : Checked Bool :=
  let key := if (Value.field? entries key).isNone && (Value.field? entries other).isSome then other
    else key
  Document.checkOptional entries key false checkTruth

def checkOutput (entries : List (Value × Value)) : Checked (OutputFormat × Bool) :=
  Checked.both
    (Document.checkOptional entries "format" .table (checkChoice OutputFormat.all (·.text)))
    (checkEither entries "showPassing" "show_passing")

def checkAll (entries : List (Value × Value)) : Checked Settings :=
  let resolver := Document.checkOptional entries "resolver" false
    (checkSection fun es => checkEither es "failFast" "fail_fast")
  let output := Document.checkOptional entries "output" (.table, false) (checkSection checkOutput)
  let logging := Document.checkOptional entries "logging" .warn
    (checkSection fun es =>
      Document.checkOptional es "level" .warn (checkChoice LogLevel.all (·.text)))
  let known := Document.checkKnown ["resolver", "output", "logging"] entries
  (resolver.both (output.both (logging.both known))).map
    fun (failFast, (format, showPassing), level, _) => { failFast, format, showPassing, level }

/-- The settings that a value describes. A value that is no mapping with text keys has no issues of
its own. -/
def ofValue (v : Value) : Except (Option (List Issue)) Settings :=
  match v with
  | .map entries =>
    if entries.all fun e => e.1.text?.isSome then (checkAll entries).mapError some
    else .error none
  | _ => .error none

/-! ## Files -/

def fileName : String := ".formrules.json"

inductive Flaw where
  | json (path text : String) (flaw : Json.Flaw)
  | unreadable (path : String)
  | shape (path : String) (issues : Option (List Issue))
  deriving Repr, Inhabited

/-- What a flaw quotes, as far as it has issues; a flaw in words of its own quotes nothing. -/
def Flaw.quoted : Flaw → Option (List Issue)
  | .json .. => none
  | .unreadable _ => some []
  | .shape _ issues => some (issues.getD [])

def Flaw.message : Flaw → String
  | .json path text (.malformed reason position) =>
    s!"Invalid JSON in config file {path}: {reason.textAt text.toList position}"
  | .json path text flaw => s!"Failed to load config from {path}: {flaw.textAt text}"
  | .unreadable path => s!"Failed to load config from {path}: <cause>"
  | .shape path _ => s!"Failed to load config from {path}: <cause>"

def parse (depth : Nat) (path : String) (bytes : List UInt8) : Except Flaw Settings := do
  let cs ← (Text.decode bytes).mapError fun _ => .unreadable path
  let text := String.ofList (Text.unifyBreaks cs)
  let v ← (Json.read depth text).mapError (.json path text)
  (ofValue v).mapError (.shape path)

def find? (disk : Disk) (directory : String) : Option String :=
  let start := Path.absolute disk.directory directory
  ((Path.ancestors start).map fun d => Path.join d fileName).find? fun path =>
    (disk.state path).exists?

def ofFile (disk : Disk) (path : String) : Except Flaw Settings :=
  match disk.state path with
  | .missing => .ok standard
  | .beyondData => .ok standard
  | .directory => .error (.unreadable (Path.normal path))
  | .data bytes => parse (disk.depth path) (Path.normal path) bytes

def load (disk : Disk) (path : Option String) : Except Flaw Settings :=
  match path.orElse fun _ => find? disk "." with
  | some path => ofFile disk path
  | none => .ok standard

end Settings

end FormCheck
