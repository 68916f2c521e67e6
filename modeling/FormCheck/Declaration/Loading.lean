import FormCheck.Disk
import FormCheck.Document
import FormCheck.Json.Reader
import FormCheck.Text.Utf8
import FormCheck.Yaml

/-! # Loading declarations

A file holds one form document, a list of them, or a mapping with such a list under `forms`. Files
with the ending of YAML are read as such, all others as JSON.
-/

namespace FormCheck

inductive LoadFailure where
  | missing (path : String)
  | beyondData
  | directory
  | misfit (m : Text.Misfit)
  | json (path : String) (text : String) (flaw : Json.Flaw)
  | yaml (path : String) (flaw : Yaml.Flaw)
  | noForms (path : String)
  | form (f : Failure)
  deriving Repr, Inhabited

def LoadFailure.message : LoadFailure → String
  | .missing path => s!"Declaration file not found: {path}"
  | .beyondData => "the path leads through a file"
  | .directory => "the path is a directory"
  | .misfit m => m.text
  | .json path text (.malformed reason position) =>
    s!"Invalid JSON in declaration file {path}: {reason.textAt text.toList position}"
  | .json _ text flaw => flaw.textAt text
  | .yaml path .malformed => s!"Invalid YAML in declaration file {path}: {Yaml.Flaw.malformed.text}"
  | .yaml _ flaw => flaw.text
  | .noForms path => s!"Declaration file {path} must hold a form mapping or a list of them"
  | .form f => f.message

def readJson (depth : Nat) (path : String) (bytes : List UInt8) : Except LoadFailure Value := do
  let cs ← (Text.decode bytes).mapError .misfit
  let text := String.ofList (Text.unifyBreaks cs)
  (Json.read depth text).mapError (.json path text)

namespace FormDeclaration

def isYaml (path : String) : Bool :=
  let ending := (Path.suffix path).toLower
  ending == ".yaml" || ending == ".yml"

def parse (depth : Nat) (path : String) (bytes : List UInt8) : Except LoadFailure Value :=
  if isYaml path then do
    let cs ← (Text.decodeStream bytes).mapError .misfit
    (Yaml.read depth (Text.unifyBreaks cs)).mapError (.yaml path)
  else readJson depth path bytes

def documents (v : Value) : Value :=
  match v.opened with
  | .map entries =>
    match Value.field? entries "forms" with
    | some forms => forms
    | none => .list [v]
  | .list items => .list items
  | _ => .list [v]

def ofValue (path : String) (v : Value) : Except LoadFailure (List FormDeclaration) :=
  match (documents v).opened with
  | .list items =>
    if items.all (·.isMap) then (items.mapM Document.declaration).mapError .form
    else .error (.noForms path)
  | _ => .error (.noForms path)

def load (disk : Disk) (path : String) : Except LoadFailure (List FormDeclaration) :=
  let shown := Path.normal path
  match disk.state path with
  | .missing => .error (.missing shown)
  | .beyondData => .error (.missing shown)
  | .directory => .error .directory
  | .data bytes => do
    let v ← parse (disk.depth path) shown bytes
    ofValue shown v

end FormDeclaration

end FormCheck
