import FormCheck.Number.Double.Text
import FormCheck.Text.Quoted
import FormCheck.Value

/-! # The written form of values

`literal` is how a value is written in a declaration; `shown` is how it reads inside a sentence,
where texts and decimals stand bare. A collection that contains itself is written once, and by dots
where it comes again.
-/

namespace FormCheck.Value

def decimalLiteral (d : Number.Decimal) : String :=
  "Decimal('" ++ d.text ++ "')"

def atomLiteral : Value → String
  | .bool b => if b then "True" else "False"
  | .int i => Number.intText i
  | .float d => d.text
  | .decimal d => decimalLiteral d
  | .text s => Text.quoted s
  | .bytes data => Text.quotedBytes data
  | .date d => d.literal
  | .moment m => m.literal
  | _ => "None"

def tupleLiteral : List String → String
  | [one] => "(" ++ one ++ ",)"
  | all => "(" ++ ", ".intercalate all ++ ")"

/-! ## Knots -/

/-- A piece of the literal of a part of a knot: text, or the number of another part. -/
inductive Fragment where
  | text (s : String)
  | part (index : Nat)
  deriving DecidableEq, Repr, Inhabited

def joined : List (List Fragment) → List Fragment
  | [] => []
  | [one] => one
  | one :: rest => one ++ Fragment.text ", " :: joined rest

mutual

def fragments : Value → List Fragment
  | .part index => [.part index]
  | .list items => .text "[" :: joined (allFragments items) ++ [.text "]"]
  | .tuple items => .text "(" :: joined (allFragments items) ++ [.text ")"]
  | .set items => .text "\x7b" :: joined (allFragments items) ++ [.text "\x7d"]
  | .map entries => .text "\x7b" :: joined (entryFragments entries) ++ [.text "\x7d"]
  | v => [.text v.atomLiteral]

def allFragments : List Value → List (List Fragment)
  | [] => []
  | v :: vs => fragments v :: allFragments vs

def entryFragments : List (Value × Value) → List (List Fragment)
  | [] => []
  | (k, v) :: rest => (fragments k ++ .text ": " :: fragments v) :: entryFragments rest

end

def repeatedLiteral (pieces : List Fragment) : String :=
  if pieces.head? == some (.text "[") then "[...]" else "\x7b...\x7d"

def partLiteral (parts : List (List Fragment)) : Nat → List Nat → Nat → String
  | 0, _, _ => "..."
  | fuel + 1, around, index =>
    let pieces := parts[index]?.getD []
    if around.contains index then repeatedLiteral pieces
    else String.join (pieces.map fun f =>
      match f with
      | .text s => s
      | .part other => partLiteral parts fuel (index :: around) other)

/-! ## All values -/

mutual

def literal : Value → String
  | .list items => "[" ++ ", ".intercalate (literals items) ++ "]"
  | .tuple items => tupleLiteral (literals items)
  | .set items =>
    match literals items with
    | [] => "set()"
    | all => "\x7b" ++ ", ".intercalate all ++ "\x7d"
  | .map entries => "\x7b" ++ ", ".intercalate (entryLiterals entries) ++ "\x7d"
  | .object attributes => "namespace(" ++ ", ".intercalate (attributeLiterals attributes) ++ ")"
  | .knot parts _ index => partLiteral (allFragments parts) (parts.length + 1) [] index
  | v => v.atomLiteral

def literals : List Value → List String
  | [] => []
  | v :: vs => literal v :: literals vs

def entryLiterals : List (Value × Value) → List String
  | [] => []
  | (k, v) :: rest => (literal k ++ ": " ++ literal v) :: entryLiterals rest

def attributeLiterals : List (String × Value) → List String
  | [] => []
  | (k, v) :: rest => (k ++ "=" ++ literal v) :: attributeLiterals rest

end

/-- A value inside a sentence. -/
def shown : Value → String
  | .text s => s
  | .decimal d => d.text
  | v => v.literal

def kindName : Value → String
  | .null => "NoneType"
  | .bool _ => "bool"
  | .int _ => "int"
  | .float _ => "float"
  | .decimal _ => "Decimal"
  | .text _ => "str"
  | .bytes _ => "bytes"
  | .date _ => "date"
  | .moment _ => "datetime"
  | .list _ => "list"
  | .tuple _ => "tuple"
  | .set _ => "set"
  | .map _ => "dict"
  | .object _ => "SimpleNamespace"
  | .knot parts _ index =>
    match parts[index]? with
    | some (.map _) => "dict"
    | _ => "list"
  | .part _ => "list"

end FormCheck.Value
