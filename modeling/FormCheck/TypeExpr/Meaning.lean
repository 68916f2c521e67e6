import FormCheck.TypeExpr.Known

/-! # Meanings of expressions

What an expression means as an annotation: a class, an annotation built from classes, a value, or a
sequence of these. Some names have values of their own, which hide what every annotation knows.
-/

namespace FormCheck

inductive NameFlaw where
  | unknown (name : String)
  | unknownMember (name : String)
  | text (flaw : Expression.TextFlaw)
  | divisionByZero
  | outOfRange (kind : String)
  | missingKey (written : String)
  | misuse
  deriving DecidableEq, Repr, Inhabited

def NameFlaw.message : NameFlaw → String
  | .unknown name => s!"name '{name}' is not defined"
  | .unknownMember name => s!"no member {name}"
  | .text flaw => flaw.message
  | .divisionByZero => "division by zero"
  | .outOfRange kind => s!"{kind} index out of range"
  | .missingKey written => written
  | .misuse => "no type"

namespace TypeExpr

def combined {α : Type} (a : Except Misuse α) : Except NameFlaw α :=
  a.mapError fun m =>
    match m with
    | .text flaw => .text flaw
    | _ => .misuse

def truthy : TypeExpr → Bool
  | .value v => v.truthy
  | .sequence _ members => !members.isEmpty
  | _ => true

def characters (s : String) : List TypeExpr :=
  s.toList.map fun c => .value (.text (String.singleton c))

def held : TypeExpr → Except NameFlaw (List TypeExpr)
  | .sequence _ members => .ok members
  | .value (.text s) => .ok (characters s)
  | .value (.list items) => .ok (items.map .value)
  | .value (.tuple items) => .ok (items.map .value)
  | .generic (.plain b) arguments => .ok [.generic (.unpacked b) arguments]
  | _ => .error .misuse

def select (kind : String) (members : List TypeExpr) (i : Int) : Except NameFlaw TypeExpr :=
  let place := if i < 0 then i + members.length else i
  match place, members[place.toNat]? with
  | .ofNat _, some a => .ok a
  | _, _ => .error (.outOfRange kind)

def entry (entries : List (Value × Value)) (key : TypeExpr) : Except NameFlaw TypeExpr :=
  if !key.hashable then .error .misuse
  else match key with
    | .value k =>
      match entries.find? fun e => e.1.sameKey k with
      | some e => .ok (.value e.2)
      | none => .error (.missingKey k.literal)
    | a => .error (.missingKey (", ".intercalate (literals [a])))

def item (a index : TypeExpr) : Except NameFlaw TypeExpr :=
  match a, index with
  | .builtin b, index =>
    if !b.takesArguments then .error .misuse
    else match index with
      | .sequence true arguments => .ok (.generic (.plain b) arguments)
      | argument => .ok (.generic (.plain b) [argument])
  | .sequence true members, .value (.int i) => select "tuple" members i
  | .sequence false members, .value (.int i) => select "list" members i
  | .value (.text s), .value (.int i) => select "string" (characters s) i
  | .value (.tuple items), .value (.int i) => select "tuple" (items.map .value) i
  | .value (.list items), .value (.int i) => select "list" (items.map .value) i
  | .value (.map entries), key => entry entries key
  | _, _ => .error .misuse

def class? : TypeExpr → Option Builtin
  | .builtin _ => some (.other "type")
  | .value v => Builtin.ofValue? v
  | .sequence true _ => some (.other "tuple")
  | .sequence false _ => some .list
  | .object .dots => some (.other "ellipsis")
  | .object .notImplemented => some (.other "NotImplementedType")
  | .object (.function _) => some (.other "builtin_function_or_method")
  | _ => none

def memberNamed (a : TypeExpr) (name : String) : Except NameFlaw TypeExpr :=
  match name, a, a.class? with
  | "__name__", .builtin b, _ => .ok (.value (.text b.name))
  | "__qualname__", .builtin b, _ => .ok (.value (.text b.name))
  | "__name__", .generic (.plain b) _, _ => .ok (.value (.text b.name))
  | "__origin__", .generic (.plain b) _, _ => .ok (.builtin b)
  | "__args__", .generic _ arguments, _ => .ok (.sequence true arguments)
  | "__class__", _, some b => .ok (.builtin b)
  | _, .value (.object attributes), _ =>
    match attributes.lookup name with
    | some v => .ok (.value v)
    | none => .error (.unknownMember name)
  | _, _, _ => .error (.unknownMember name)

def call (f : TypeExpr) (arguments : List TypeExpr) : Except NameFlaw TypeExpr :=
  match f, arguments with
  | .builtin (.other "type"), [a] =>
    match a.class? with
    | some b => .ok (.builtin b)
    | none => .error .misuse
  | .builtin b, [] =>
    match b.emptyValue? with
    | some v => .ok (.value v)
    | none => .error .misuse
  | _, _ => .error .misuse

def integer? : TypeExpr → Option Int
  | .value (.int i) => some i
  | .value (.bool b) => some (if b then 1 else 0)
  | _ => none

def unary (sign : String) (a : TypeExpr) : Except NameFlaw TypeExpr :=
  match sign, a, a.integer? with
  | "not", _, _ => .ok (.value (.bool !a.truthy))
  | "-", _, some i => .ok (.value (.int (-i)))
  | "+", _, some i => .ok (.value (.int i))
  | "~", _, some i => .ok (.value (.int (-i - 1)))
  | "-", .value (.float d), _ => .ok (.value (.float d.negated))
  | "+", .value (.float d), _ => .ok (.value (.float d))
  | _, _, _ => .error .misuse

def ofIntegers (sign : String) (i j : Int) : Except NameFlaw Value :=
  let divided := fun (result : Int) =>
    if j = 0 then .error .divisionByZero else .ok (.int result)
  match sign with
  | "+" => .ok (.int (i + j))
  | "-" => .ok (.int (i - j))
  | "*" => .ok (.int (i * j))
  | "//" => divided (i.fdiv j)
  | "%" => divided (i.fmod j)
  | "/" => if j = 0 then .error .divisionByZero else .error .misuse
  | "|" => if 0 ≤ i && 0 ≤ j then .ok (.int (i.toNat ||| j.toNat)) else .error .misuse
  | "<" => .ok (.bool (decide (i < j)))
  | "<=" => .ok (.bool (decide (i ≤ j)))
  | ">" => .ok (.bool (decide (j < i)))
  | ">=" => .ok (.bool (decide (j ≤ i)))
  | _ => .error .misuse

def binary (sign : String) (a b : TypeExpr) : Except NameFlaw TypeExpr :=
  match sign with
  | ":=" => .ok b
  | "==" => .ok (.value (.bool (same a b)))
  | "is" => .ok (.value (.bool (same a b)))
  | "!=" => .ok (.value (.bool !same a b))
  | "is not" => .ok (.value (.bool !same a b))
  | _ =>
    match sign, a, b with
    | "|", .value (.bool p), .value (.bool q) => .ok (.value (.bool (p || q)))
    | _, _, _ =>
      match a.integer?, b.integer? with
      | some i, some j => (ofIntegers sign i j).map .value
      | _, _ => if sign == "|" then combined (a.either b) else .error .misuse

end TypeExpr

namespace Expression

def nameMeaning (scope : List (String × Value)) (name : String) : Except NameFlaw TypeExpr :=
  match scope.lookup name, TypeExpr.known? name with
  | some v, _ => .ok (.value v)
  | none, some a => .ok a
  | none, none => .error (.unknown name)

def isSpread : Expression → Bool
  | .spread _ => true
  | _ => false

mutual

def meaning (scope : List (String × Value)) : Expression → Except NameFlaw TypeExpr
  | .name s => nameMeaning scope s
  | .value v => .ok (.value v)
  | .dots => .ok (.object .dots)
  | .inert => .error .misuse
  | .member a s => do
    let m ← meaning scope a
    m.memberNamed s
  | .item a index => do
    let m ← meaning scope a
    let i ← meaning scope index
    m.item i
  | .call f arguments => do
    let m ← meaning scope f
    let given ← meanings scope arguments
    m.call given
  | .tuple items => do
    let members ← meanings scope items
    pure (.sequence true members)
  | .display items => do
    let members ← meanings scope items
    pure (.sequence false members)
  | .spread a => do
    let m ← meaning scope a
    let members ← m.held
    pure (.sequence true members)
  | .key a => do
    let m ← meaning scope a
    if m.hashable then pure m else throw .misuse
  | .unary sign a => do
    let m ← meaning scope a
    m.unary sign
  | .binary sign a b => do
    let m ← meaning scope a
    let n ← meaning scope b
    m.binary sign n
  | .both a b => do
    let m ← meaning scope a
    if m.truthy then meaning scope b else pure m
  | .oneOf a b => do
    let m ← meaning scope a
    if m.truthy then pure m else meaning scope b
  | .choice condition yes no => do
    let c ← meaning scope condition
    if c.truthy then meaning scope yes else meaning scope no

def meanings (scope : List (String × Value)) : List Expression → Except NameFlaw (List TypeExpr)
  | [] => .ok []
  | a :: rest => do
    let m ← meaning scope a
    let own ← if a.isSpread then m.held else pure [m]
    let others ← meanings scope rest
    pure (own ++ others)

end

end Expression

end FormCheck
