import FormCheck.Number.Double.Text
import FormCheck.Text.Quoted
import FormCheck.Value.Literal

/-! # Writing JSON

The JSON text of a value in ASCII, on one line or indented by two blanks for each level. Values that
JSON does not have are written as the text they are shown as.
-/

namespace FormCheck.Json

def unitEscape (n : Nat) : List Char :=
  '\\' :: 'u' :: Text.hexDigits 4 n

/-- A character of a text: beyond ASCII and below the blank it is written by its code. -/
def writeChar (c : Char) : List Char :=
  match c with
  | '"' => ['\\', '"']
  | '\\' => ['\\', '\\']
  | '\n' => ['\\', 'n']
  | '\x0d' => ['\\', 'r']
  | '\t' => ['\\', 't']
  | '\x0c' => ['\\', 'f']
  | '\x08' => ['\\', 'b']
  | c =>
    let n := c.toNat
    if 32 ≤ n ∧ n < 127 then [c]
    else if n < 0x10000 then unitEscape n
    else unitEscape (0xD800 + (n - 0x10000) / 0x400) ++ unitEscape (0xDC00 + (n - 0x10000) % 0x400)

def writeText (s : String) : String :=
  "\"" ++ String.ofList (s.toList.flatMap writeChar) ++ "\""

def writeDouble : Number.Double → String
  | .nan _ => "NaN"
  | .infinite negative => if negative then "-Infinity" else "Infinity"
  | d => d.text

structure Layout where
  indented : Bool
  deriving DecidableEq, Repr, Inhabited

def Layout.lineBreak (layout : Layout) (level : Nat) : String :=
  if layout.indented then "\n" ++ String.ofList (List.replicate (2 * level) ' ') else ""

def Layout.enclose (layout : Layout) (level : Nat) (opening closing : String)
    (parts : List String) : String :=
  let separator := if layout.indented then "," ++ layout.lineBreak (level + 1) else ", "
  opening ++ layout.lineBreak (level + 1) ++ separator.intercalate parts ++
    layout.lineBreak level ++ closing

mutual

def writeAt (layout : Layout) (level : Nat) : Value → String
  | .null => "null"
  | .bool b => if b then "true" else "false"
  | .int i => Number.intText i
  | .float d => writeDouble d
  | .text s => writeText s
  | .list [] => "[]"
  | .list items => layout.enclose level "[" "]" (writeItems layout (level + 1) items)
  | .tuple [] => "[]"
  | .tuple items => layout.enclose level "[" "]" (writeItems layout (level + 1) items)
  | .map [] => "\x7b\x7d"
  | .map entries => layout.enclose level "\x7b" "\x7d" (writeMembers layout (level + 1) entries)
  | v => writeText v.shown

def writeItems (layout : Layout) (level : Nat) : List Value → List String
  | [] => []
  | v :: rest => writeAt layout level v :: writeItems layout level rest

def writeMembers (layout : Layout) (level : Nat) : List (Value × Value) → List String
  | [] => []
  | (k, v) :: rest =>
    (writeText k.shown ++ ": " ++ writeAt layout level v) :: writeMembers layout level rest

end

def write (v : Value) : String :=
  writeAt { indented := false } 0 v

def writeIndented (v : Value) : String :=
  writeAt { indented := true } 0 v

end FormCheck.Json
