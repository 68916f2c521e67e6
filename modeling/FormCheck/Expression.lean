import FormCheck.Value

/-! # Expressions

The expressions in which annotations may be written. What can only fail or give something that is no
type is kept no further than that: functions without a name, generators and the like are `inert`.
-/

namespace FormCheck

/-- An expression. A display makes a new list, mapping or set; a key of it has to be one that can be
found again. What a comprehension makes is displayed by what it goes through. -/
inductive Expression where
  | name (s : String)
  | value (v : Value)
  | dots
  | inert
  | member (of : Expression) (name : String)
  | item (of index : Expression)
  | call (function : Expression) (arguments : List Expression)
  | tuple (items : List Expression)
  | display (items : List Expression)
  | spread (a : Expression)
  | key (a : Expression)
  | unary (sign : String) (a : Expression)
  | binary (sign : String) (a b : Expression)
  | both (a b : Expression)
  | oneOf (a b : Expression)
  | choice (condition yes no : Expression)
  deriving Repr, Inhabited

namespace Expression

def reservedWords : List String :=
  ["and", "as", "assert", "async", "await", "break", "class", "continue", "def", "del", "elif",
   "else", "except", "finally", "for", "from", "global", "if", "import", "in", "is", "lambda",
   "nonlocal", "not", "or", "pass", "raise", "return", "try", "while", "with", "yield"]

def constants : List (String × Value) :=
  [("None", .null), ("True", .bool true), ("False", .bool false)]

def isName (word : String) : Bool :=
  !reservedWords.contains word && (constants.lookup word).isNone

def isTarget : Expression → Bool
  | .name s => s != "__debug__"
  | .member .. => true
  | .item .. => true
  | .spread a => isTarget a
  | .tuple items => allTargets items
  | .display items => allTargets items
  | _ => false
where
  allTargets : List Expression → Bool
    | [] => true
    | a :: rest => isTarget a && allTargets rest

end Expression

end FormCheck
