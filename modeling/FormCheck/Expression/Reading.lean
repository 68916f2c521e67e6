import FormCheck.Expression
import FormCheck.Expression.Token

/-! # Reading expressions

Each kind of expression has a function that reads it from the tokens that are left, those that bind
loosely before those that bind tightly. `Expression.ofText` reads a whole text; one that begins with
a star stands for the first of what its expression spreads.

The first number of a function is fuel.
-/

namespace FormCheck.Expression

inductive TextFlaw where
  | empty
  | zeroCharacter
  | unreadable (text : String)
  deriving DecidableEq, Repr, Inhabited

def TextFlaw.message : TextFlaw → String
  | .empty => "string index out of range"
  | .zeroCharacter => "source code string cannot contain null bytes"
  | .unreadable text => s!"{text} is no expression"

abbrev Reading := StateT (List Token) Option

namespace Reading

/-! ## Single tokens -/

def signAmong (signs : List String) : Reading (Option String) := fun tokens =>
  match tokens with
  | .sign s :: rest => if signs.contains s then some (some s, rest) else some (none, tokens)
  | _ => some (none, tokens)

def takesSign (s : String) : Reading Bool :=
  (·.isSome) <$> signAmong [s]

def takesWord (w : String) : Reading Bool := fun tokens =>
  match tokens with
  | .word v :: rest => if v == w then some (true, rest) else some (false, tokens)
  | _ => some (false, tokens)

def needSign (s : String) : Reading Unit := do
  if ← takesSign s then pure () else failure

def needWord (w : String) : Reading Unit := do
  if ← takesWord w then pure () else failure

def isBefore (signs : List String) : Reading Bool := do
  match (← get).head? with
  | some (.sign s) => pure (signs.contains s)
  | _ => pure false

def isAtEnd : Reading Bool := do
  return (← get).isEmpty

def asKey : Expression → Expression
  | .spread a => .spread a
  | a => .key a

def isBindable (word : String) : Bool :=
  isName word && word != "__debug__"

def name : Reading String := fun tokens =>
  match tokens with
  | .word w :: rest => if isName w then some (w, rest) else none
  | _ => none

def wordBefore (sign : String) : Reading (Option String) := fun tokens =>
  match tokens with
  | .word w :: .sign s :: rest =>
    if s == sign then some (some w, rest) else some (none, tokens)
  | _ => some (none, tokens)

def isBinding : Reading Bool := fun tokens =>
  match tokens with
  | .word _ :: .sign s :: _ => some (s == ":=", tokens)
  | _ => some (false, tokens)

def comparator : Reading (Option String) := fun tokens =>
  match tokens with
  | .word "not" :: .word "in" :: rest => some (some "not in", rest)
  | .word "is" :: .word "not" :: rest => some (some "is not", rest)
  | .word "in" :: rest => some (some "in", rest)
  | .word "is" :: rest => some (some "is", rest)
  | _ => signAmong ["==", "!=", "<=", ">=", "<", ">"] tokens

/-! ## Strings -/

def isString : Token → Bool
  | .string _ => true
  | .formatted => true
  | _ => false

def joined? (strings : List Token) : Option Expression :=
  let texts := strings.filterMap fun t => match t with
    | .string (.text s) => some s
    | _ => none
  let data := strings.filterMap fun t => match t with
    | .string (.bytes b) => some b
    | _ => none
  if texts.length = strings.length then some (.value (.text (String.join texts)))
  else if data.length = strings.length then some (.value (.bytes data.flatten))
  else if data.isEmpty then some .inert
  else none

def strings : Reading Expression := fun tokens => do
  let e ← joined? (tokens.takeWhile isString)
  return (e, tokens.dropWhile isString)

/-! ## Expressions -/

/-- The signs between two operands, those that bind loosely first. -/
def levels : List (List String) :=
  [["|"], ["^"], ["&"], ["<<", ">>"], ["+", "-"], ["*", "/", "//", "%", "@"]]

structure Arguments where
  isFirst : Bool
  names : List String
  hasMapping : Bool

structure Parameters where
  names : List String
  hasDefault : Bool
  hasSlash : Bool
  hasStar : Bool

def Parameters.add (p : Parameters) (name : String) : Reading Parameters :=
  if isBindable name && !p.names.contains name then pure { p with names := name :: p.names }
  else failure

mutual

def expression : Nat → Reading Expression
  | 0 => failure
  | n + 1 => do
    if ← takesWord "lambda" then
      parameters n ⟨[], false, false, false⟩
      let _ ← expression n
      pure .inert
    else
      let yes ← disjunction n
      if ← takesWord "if" then
        let condition ← disjunction n
        needWord "else"
        let no ← expression n
        pure (.choice condition yes no)
      else pure yes

def parameters : Nat → Parameters → Reading Unit
  | 0, _ => failure
  | n + 1, p => do
    if ← takesSign ":" then pure ()
    else if ← takesSign "**" then
      let _ ← p.add (← name)
      let _ ← takesSign ","
      needSign ":"
    else if ← takesSign "/" then
      if p.names.isEmpty || p.hasSlash || p.hasStar then failure
      else moreParameters n { p with hasSlash := true }
    else if ← takesSign "*" then
      if p.hasStar then failure
      else if ← takesSign "," then
        if ← isBefore [":", "*", "**", "/"] then failure
        else parameters n { p with hasStar := true }
      else
        let p ← p.add (← name)
        moreParameters n { p with hasStar := true }
    else
      let p ← p.add (← name)
      if ← takesSign "=" then
        let _ ← expression n
        moreParameters n { p with hasDefault := true }
      else if p.hasDefault && !p.hasStar then failure
      else moreParameters n p

def moreParameters : Nat → Parameters → Reading Unit
  | 0, _ => failure
  | n + 1, p => do
    if ← takesSign "," then parameters n p
    else needSign ":"

def disjunction : Nat → Reading Expression
  | 0 => failure
  | n + 1 => do
    let a ← conjunction n
    if ← takesWord "or" then
      let b ← disjunction n
      pure (.oneOf a b)
    else pure a

def conjunction : Nat → Reading Expression
  | 0 => failure
  | n + 1 => do
    let a ← inversion n
    if ← takesWord "and" then
      let b ← conjunction n
      pure (.both a b)
    else pure a

def inversion : Nat → Reading Expression
  | 0 => failure
  | n + 1 => do
    if ← takesWord "not" then
      let a ← inversion n
      pure (.unary "not" a)
    else
      let a ← operands n levels
      let compared ← comparisons n a
      pure (compared.getD a)

def comparisons : Nat → Expression → Reading (Option Expression)
  | 0, _ => failure
  | n + 1, a => do
    match ← comparator with
    | none => pure none
    | some sign =>
      let b ← operands n levels
      let more ← comparisons n b
      match more with
      | none => pure (some (.binary sign a b))
      | some c => pure (some (.both (.binary sign a b) c))

def operands : Nat → List (List String) → Reading Expression
  | 0, _ => failure
  | n + 1, [] => factor n
  | n + 1, signs :: tighter => do
    let a ← operands n tighter
    moreOperands n signs tighter a

def moreOperands : Nat → List String → List (List String) → Expression → Reading Expression
  | 0, _, _, _ => failure
  | n + 1, signs, tighter, a => do
    match ← signAmong signs with
    | none => pure a
    | some sign =>
      let b ← operands n tighter
      moreOperands n signs tighter (.binary sign a b)

def factor : Nat → Reading Expression
  | 0 => failure
  | n + 1 => do
    match ← signAmong ["+", "-", "~"] with
    | some sign =>
      let a ← factor n
      pure (.unary sign a)
    | none =>
      let a ← primary n
      if ← takesSign "**" then
        let b ← factor n
        pure (.binary "**" a b)
      else pure a

def primary : Nat → Reading Expression
  | 0 => failure
  | n + 1 => do
    let a ← atom n
    trailers n a

def trailers : Nat → Expression → Reading Expression
  | 0, _ => failure
  | n + 1, a => do
    match ← signAmong [".", "(", "["] with
    | some "." =>
      let member ← name
      trailers n (.member a member)
    | some "(" =>
      let given ← arguments n ⟨true, [], false⟩
      trailers n (.call a given)
    | some _ =>
      let index ← subscript n
      trailers n (.item a index)
    | none => pure a

def arguments : Nat → Arguments → Reading (List Expression)
  | 0, _ => failure
  | n + 1, seen => do
    if ← takesSign ")" then pure []
    else if ← takesSign "**" then
      let e ← expression n
      moreArguments n { seen with hasMapping := true } e
    else if ← takesSign "*" then
      let e ← expression n
      if seen.hasMapping then failure
      else moreArguments n seen (.spread e)
    else match ← wordBefore "=" with
      | some word =>
        let e ← expression n
        if !isBindable word || seen.names.contains word then failure
        else moreArguments n { seen with names := word :: seen.names } e
      | none =>
        let e ← argument n seen.isFirst
        if !seen.names.isEmpty || seen.hasMapping then failure
        else moreArguments n seen e

def moreArguments : Nat → Arguments → Expression → Reading (List Expression)
  | 0, _, _ => failure
  | n + 1, seen, e => do
    if ← takesSign "," then
      let rest ← arguments n { seen with isFirst := false }
      pure (e :: rest)
    else
      needSign ")"
      pure [e]

def subscript : Nat → Reading Expression
  | 0 => failure
  | n + 1 => do
    let isSpread ← isBefore ["*"]
    let e ← slice n
    if ← takesSign "," then
      let rest ← slices n
      pure (.tuple (e :: rest))
    else
      needSign "]"
      pure (if isSpread then .tuple [e] else e)

def slices : Nat → Reading (List Expression)
  | 0 => failure
  | n + 1 => do
    if ← takesSign "]" then pure []
    else
      let e ← slice n
      if ← takesSign "," then
        let rest ← slices n
        pure (e :: rest)
      else
        needSign "]"
        pure [e]

def slice : Nat → Reading Expression
  | 0 => failure
  | n + 1 => do
    let isBound ← isBinding
    if ← takesSign ":" then bounds n
    else if ← takesSign "*" then
      let e ← expression n
      pure (.spread e)
    else if isBound then binding n
    else
      let e ← expression n
      if ← takesSign ":" then bounds n
      else pure e

def bounds : Nat → Reading Expression
  | 0 => failure
  | n + 1 => do
    bound n
    if ← takesSign ":" then bound n
    pure .inert

def bound : Nat → Reading Unit
  | 0 => failure
  | n + 1 => do
    if ← isBefore [":", ",", "]"] then pure ()
    else
      let _ ← expression n
      pure ()

def argument : Nat → Bool → Reading Expression
  | 0, _ => failure
  | n + 1, isFirst => do
    let e ← binding n
    if ← takesWord "for" then
      let _ ← clauses n
      let isLast ← isBefore [")"]
      if isFirst && isLast then pure .inert else failure
    else pure e

def binding : Nat → Reading Expression
  | 0 => failure
  | n + 1 => do
    match ← wordBefore ":=" with
    | some word =>
      let e ← expression n
      if isBindable word then pure (.binary ":=" (.name word) e) else failure
    | none => expression n

def item : Nat → Reading Expression
  | 0 => failure
  | n + 1 => do
    if ← takesSign "*" then
      let e ← operands n levels
      pure (.spread e)
    else binding n

def items : Nat → String → Reading (List Expression)
  | 0, _ => failure
  | n + 1, close => do
    if ← takesSign close then pure []
    else
      let e ← item n
      moreItems n close e

def moreItems : Nat → String → Expression → Reading (List Expression)
  | 0, _, _ => failure
  | n + 1, close, e => do
    if ← takesSign "," then
      let rest ← items n close
      pure (e :: rest)
    else
      needSign close
      pure [e]

def group : Nat → Reading Expression
  | 0 => failure
  | n + 1 => do
    if ← takesSign ")" then pure (.tuple [])
    else
      let e ← item n
      let isTuple ← isBefore [","]
      if ← takesWord "for" then
        let _ ← source n e
        needSign ")"
        pure .inert
      else
        let all ← moreItems n ")" e
        match isTuple, e with
        | true, _ => pure (.tuple all)
        | false, .spread _ => failure
        | false, _ => pure e

def list : Nat → Reading Expression
  | 0 => failure
  | n + 1 => do
    if ← takesSign "]" then pure (.display [])
    else
      let e ← item n
      if ← takesWord "for" then
        let s ← source n e
        needSign "]"
        pure (.display [.spread s])
      else
        let all ← moreItems n "]" e
        pure (.display all)

def braces : Nat → Reading Expression
  | 0 => failure
  | n + 1 => do
    if ← takesSign "\x7d" then pure (.display [])
    else if ← isBefore ["**"] then
      let all ← entries n
      pure (.display all)
    else
      let isBound ← isBinding
      let e ← item n
      let isEntry ← takesSign ":"
      if isBound && isEntry then failure
      else if isEntry then
        let v ← expression n
        if ← takesWord "for" then
          let s ← source n e
          needSign "\x7d"
          pure (.display [.spread s])
        else
          let rest ← moreEntries n
          match e with
          | .spread _ => failure
          | _ => pure (.display (.key e :: v :: rest))
      else if ← takesWord "for" then
        let s ← source n e
        needSign "\x7d"
        pure (.display [.spread s])
      else
        let all ← moreItems n "\x7d" e
        pure (.display (all.map asKey))

def entries : Nat → Reading (List Expression)
  | 0 => failure
  | n + 1 => do
    if ← takesSign "\x7d" then pure []
    else if ← takesSign "**" then
      let e ← operands n levels
      let rest ← moreEntries n
      pure (.spread e :: rest)
    else
      let k ← expression n
      needSign ":"
      let v ← expression n
      let rest ← moreEntries n
      pure (.key k :: v :: rest)

def moreEntries : Nat → Reading (List Expression)
  | 0 => failure
  | n + 1 => do
    if ← takesSign "," then entries n
    else
      needSign "\x7d"
      pure []

/-- What a comprehension goes through, after the first `for` and before its bracket; the expression
that it repeats is no spread one. -/
def source : Nat → Expression → Reading Expression
  | 0, _ => failure
  | _ + 1, .spread _ => failure
  | n + 1, _ => clauses n

def clauses : Nat → Reading Expression
  | 0 => failure
  | n + 1 => do
    targets n true
    let s ← disjunction n
    conditions n
    if ← takesWord "for" then
      let _ ← clauses n
      pure s
    else pure s

def targets : Nat → Bool → Reading Unit
  | 0, _ => failure
  | n + 1, first => do
    let isEnd ← takesWord "in"
    if isEnd && first then failure
    else if isEnd then pure ()
    else
      let isSpread ← takesSign "*"
      let e ← primary n
      if !isTarget e then failure
      else if ← takesSign "," then targets n false
      else if isSpread && first then failure
      else needWord "in"

def conditions : Nat → Reading Unit
  | 0 => failure
  | n + 1 => do
    if ← takesWord "if" then
      let _ ← disjunction n
      conditions n
    else pure ()

def atom : Nat → Reading Expression
  | 0 => failure
  | n + 1 => do
    match ← get with
    | .word w :: rest =>
      set rest
      match constants.lookup w with
      | some v => pure (.value v)
      | none => if isName w then pure (.name w) else failure
    | .number v :: rest =>
      set rest
      pure ((v.map Expression.value).getD .inert)
    | .sign "(" :: rest =>
      set rest
      group n
    | .sign "[" :: rest =>
      set rest
      list n
    | .sign "\x7b" :: rest =>
      set rest
      braces n
    | .sign "..." :: rest =>
      set rest
      pure .dots
    | t :: _ => if isString t then strings else failure
    | [] => failure

end

def all : Nat → Reading (List Expression)
  | 0 => failure
  | n + 1 => do
    if ← isAtEnd then pure []
    else
      let e ← expression n
      if ← isAtEnd then pure [e]
      else
        needSign ","
        let rest ← all n
        pure (e :: rest)

def whole? (tokens : List Token) : Option Expression := do
  let es ← (all (64 * (tokens.length + 1))).run' tokens
  match es, tokens.getLast? with
  | [], _ => none
  | [e], some (.sign ",") => some (.tuple [e])
  | [e], _ => some e
  | es, _ => some (.tuple es)

end Reading

def ofText (text : String) : Except TextFlaw Expression :=
  let cs := text.toList
  let written := if cs.head? == some '*' then '(' :: cs ++ ",)[0]".toList else cs
  if cs.isEmpty then .error .empty
  else if cs.contains '\x00' then .error .zeroCharacter
  else match (Token.ofText? written).bind Reading.whole? with
    | some e => .ok e
    | none => .error (.unreadable text)

end FormCheck.Expression
