import FormCheck.Document.Issue
import FormCheck.Number.Digits
import FormCheck.Value.Literal

/-! # Checking documents

A check of a part of a document gives what the part stands for, or every issue of it. Checks of
several parts are joined so that no issue is lost and the issues keep the order of the parts.
-/

namespace FormCheck

abbrev Checked := Except (List Issue)

namespace Checked

def issues {α : Type} : Checked α → List Issue
  | .ok _ => []
  | .error is => is

def fail {α : Type} (kind : IssueKind) : Checked α :=
  .error [{ location := [], kind }]

def under {α : Type} (key : Value) (c : Checked α) : Checked α :=
  c.mapError fun is => is.map (·.under key)

def both {α β : Type} (a : Checked α) (b : Checked β) : Checked (α × β) :=
  match a, b with
  | .ok x, .ok y => .ok (x, y)
  | a, b => .error (a.issues ++ b.issues)

def all {α : Type} : List (Checked α) → Checked (List α)
  | [] => .ok []
  | c :: rest => (both c (all rest)).map fun p => p.1 :: p.2

def indexed {α : Type} (check : Value → Checked α) (items : List Value) : Checked (List α) :=
  all (items.zipIdx.map fun item => under (.int item.2) (check item.1))

end Checked

namespace Document

/-- The item of a location that stands for a key: texts and small integers as they are, other keys
by their literal. -/
def locationItem (key : Value) : Value :=
  match key with
  | .text s => .text s
  | .bool b => .int (if b then 1 else 0)
  | .int i =>
    if -9223372036854775808 ≤ i ∧ i < 9223372036854775808 then .int i
    else .text (Number.intText i)
  | k => .text k.literal

/-- A part that is a text; bytes that encode one will do. -/
def checkText (v : Value) : Checked String :=
  match v with
  | .text s => .ok s
  | .bytes data =>
    match String.fromUTF8? ⟨data.toArray⟩ with
    | some s => .ok s
    | none => Checked.fail .notUnicode
  | _ => Checked.fail .notText

/-- The items of a part that is a list or can be read as one. -/
def items? (v : Value) : Option (List Value) :=
  match v.opened with
  | .list items => some items
  | .tuple items => some items
  | .set items => some items
  | _ => none

def checkList {α : Type} (check : Value → Checked α) (v : Value) : Checked (List α) :=
  match items? v with
  | some items => Checked.indexed check items
  | none => Checked.fail .notList

def checkKey (key : Value) : Checked String :=
  Checked.under (locationItem key) (Checked.under (.text "[key]") (checkText key))

def insertText {α : Type} (entries : List (String × α)) (e : String × α) : List (String × α) :=
  if entries.any fun f => f.1 == e.1 then
    entries.map fun f => if f.1 == e.1 then e else f
  else entries ++ [e]

/-- A part that is a mapping with text keys. Different keys may stand for one text. -/
def checkMapping {α : Type} (check : Value → Checked α) (v : Value) :
    Checked (List (String × α)) :=
  match v.opened with
  | .map entries =>
    (Checked.all (entries.map fun e =>
      Checked.both (checkKey e.1) (Checked.under (locationItem e.1) (check e.2)))).map
        fun checked => checked.foldl insertText []
  | _ => Checked.fail .notMapping

def checkOptional {α : Type} (entries : List (Value × Value)) (key : String) (default : α)
    (check : Value → Checked α) : Checked α :=
  match Value.field? entries key with
  | some v => Checked.under (.text key) (check v)
  | none => .ok default

def checkRequired {α : Type} (entries : List (Value × Value)) (key : String)
    (check : Value → Checked α) : Checked α :=
  Checked.under (.text key) <|
    match Value.field? entries key with
    | some v => check v
    | none => Checked.fail .missing

def checkKnown (known : List String) (entries : List (Value × Value)) : Checked Unit :=
  let issue := fun (key : Value) =>
    match key with
    | .text s => if known.contains s then none else some IssueKind.unknownKey
    | _ => some IssueKind.keyNotText
  let found := entries.filterMap fun e =>
    (issue e.1).map fun kind => { location := [locationItem e.1], kind : Issue }
  if found.isEmpty then .ok () else .error found

end Document

end FormCheck
