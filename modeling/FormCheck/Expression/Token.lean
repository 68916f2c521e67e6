import FormCheck.Number.Digits
import FormCheck.Number.Double
import FormCheck.Text.CharacterName
import FormCheck.Text.Identifier
import FormCheck.Text.Normal
import FormCheck.Value

/-! # Tokens of expressions

An expression is read as words, numbers, strings and signs. It stands on one line, which begins
without indentation; inside brackets, and after a backslash, it may go on in the next one. Lines
around it are blank or hold a comment.
-/

namespace FormCheck.Expression

/-- A token. A number or string that is nothing but itself has no value here. -/
inductive Token where
  | word (s : String)
  | number (v : Option Value)
  | string (v : Value)
  | formatted
  | sign (s : String)
  deriving Repr, Inhabited

namespace Token

/-! ## Words -/

def isWordChar (c : Char) : Bool :=
  c.isAlphanum || c == '_' || 0x80 ≤ c.toNat

/-- Whether the text after a number goes on as if the number were a word; some words may follow
directly. -/
def runsOn (cs : List Char) : Bool :=
  match cs with
  | c :: _ =>
    isWordChar c &&
      !(["and", "else", "for", "if", "in", "is", "not", "or"].any fun w => w.toList.isPrefixOf cs)
  | [] => false

/-! ## Numbers -/

/-- Digits of a kind with single underscores between them, and what follows; nothing if an
underscore stands before none. -/
def digitRun? (isDigit : Char → Bool) : List Char → Option (List Char × List Char)
  | '_' :: c :: rest =>
    if isDigit c then (digitRun? isDigit rest).map fun r => (c :: r.1, r.2) else none
  | ['_'] => none
  | c :: rest =>
    if isDigit c then (digitRun? isDigit rest).map fun r => (c :: r.1, r.2)
    else some ([], c :: rest)
  | [] => some ([], [])

def digitValue (c : Char) : Nat :=
  if c.isDigit then c.toNat - 48 else c.toLower.toNat - 87

def isDigitIn (base : Nat) (c : Char) : Bool :=
  (c.isDigit || ('a' ≤ c.toLower && c.toLower ≤ 'f')) && digitValue c < base

def valueIn (base : Nat) (ds : List Char) : Nat :=
  ds.foldl (fun n d => base * n + digitValue d) 0

def marked? (base : Nat) (cs : List Char) : Option (Token × List Char) := do
  let (ds, rest) ← digitRun? (isDigitIn base) cs
  if ds.isEmpty || runsOn rest || (rest.head?.any Char.isDigit) then none
  else some (.number (some (.int (valueIn base ds))), rest)

def exponent? (cs : List Char) : Option (Option Int × List Char) :=
  let power := fun (negative : Bool) (ds : List Char) => do
    let (ds, rest) ← digitRun? Char.isDigit ds
    let n : Int := valueIn 10 ds
    return (some (if negative then -n else n), rest)
  match cs with
  | e :: rest =>
    if e != 'e' && e != 'E' then some (none, cs)
    else match rest with
      | '-' :: d :: ds => if d.isDigit then power true (d :: ds) else none
      | '+' :: d :: ds => if d.isDigit then power false (d :: ds) else none
      | d :: ds => if d.isDigit then power false (d :: ds) else some (none, cs)
      | [] => some (none, cs)
  | [] => some (none, cs)

def decimal? (cs : List Char) : Option (Token × List Char) := do
  let (whole, rest) ← digitRun? Char.isDigit cs
  let hasPoint := rest.head? == some '.'
  let (part, rest) ← if hasPoint then digitRun? Char.isDigit (rest.drop 1) else some ([], rest)
  let (exponent, rest) ← exponent? rest
  let isImaginary := rest.head? == some 'j' || rest.head? == some 'J'
  let rest := if isImaginary then rest.drop 1 else rest
  if runsOn rest then none
  else if isImaginary then some (.number none, rest)
  else if hasPoint || exponent.isSome then
    let d := Number.Double.ofDecimal false (valueIn 10 (whole ++ part))
      (exponent.getD 0 - part.length)
    some (.number (some (.float d)), rest)
  else if whole.head? == some '0' && whole.any (· != '0') then none
  else if Number.digitLimit < whole.length then none
  else some (.number (some (.int (valueIn 10 whole))), rest)

def number? (cs : List Char) : Option (Token × List Char) :=
  match cs with
  | '0' :: mark :: rest =>
    match mark.toLower with
    | 'x' => marked? 16 rest
    | 'o' => marked? 8 rest
    | 'b' => marked? 2 rest
    | _ => decimal? cs
  | _ => decimal? cs

/-! ## Strings -/

structure StringKind where
  raw : Bool
  bytes : Bool
  formatted : Bool

def StringKind.ofLetters? (letters : List Char) : Option StringKind :=
  match String.ofList (letters.map Char.toLower) with
  | "" => some ⟨false, false, false⟩
  | "u" => some ⟨false, false, false⟩
  | "r" => some ⟨true, false, false⟩
  | "b" => some ⟨false, true, false⟩
  | "br" => some ⟨true, true, false⟩
  | "rb" => some ⟨true, true, false⟩
  | "f" => some ⟨false, false, true⟩
  | "fr" => some ⟨true, false, true⟩
  | "rf" => some ⟨true, false, true⟩
  | _ => none

def quotedPart? (quotes : List Char) : List Char → Option (List Char × List Char)
  | [] => none
  | '\\' :: c :: rest => (quotedPart? quotes rest).map fun r => ('\\' :: c :: r.1, r.2)
  | c :: rest =>
    if quotes.isPrefixOf (c :: rest) then some ([], (c :: rest).drop quotes.length)
    else if c == '\n' && quotes.length == 1 then none
    else (quotedPart? quotes rest).map fun r => (c :: r.1, r.2)

def letterEscape? : Char → Option Char
  | '\\' => some '\\'
  | '\'' => some '\''
  | '\"' => some '\"'
  | 'a' => some '\x07'
  | 'b' => some '\x08'
  | 'f' => some '\x0c'
  | 'n' => some '\n'
  | 'r' => some '\r'
  | 't' => some '\t'
  | 'v' => some '\x0b'
  | _ => none

def codeEscape? (places : Nat) (cs : List Char) : Option (Char × List Char) :=
  let ds := cs.take places
  let code := valueIn 16 ds
  if ds.length = places && ds.all (isDigitIn 16) && code ≤ 0x10ffff then
    some (Char.ofNat code, cs.drop places)
  else none

def unescape? (kind : StringKind) : Nat → List Char → Option (List Char)
  | 0, _ => some []
  | _, [] => some []
  | fuel + 1, '\\' :: c :: rest =>
    let continued := fun (d : Char) (rest : List Char) => (unescape? kind fuel rest).map (d :: ·)
    if kind.raw then
      (unescape? kind fuel rest).map fun r => '\\' :: c :: r
    else if c == '\n' then unescape? kind fuel rest
    else match letterEscape? c with
      | some d => continued d rest
      | none =>
        if isDigitIn 8 c then
          let ds := c :: (rest.take 2).takeWhile (isDigitIn 8)
          let code := valueIn 8 ds
          continued (Char.ofNat (if kind.bytes then code % 256 else code))
            (rest.drop (ds.length - 1))
        else if c == 'x' then do
          let (d, rest) ← codeEscape? 2 rest
          continued d rest
        else if kind.bytes then (unescape? kind fuel rest).map fun r => '\\' :: c :: r
        else if c == 'u' then do
          let (d, rest) ← codeEscape? 4 rest
          continued d rest
        else if c == 'U' then do
          let (d, rest) ← codeEscape? 8 rest
          continued d rest
        else if c == 'N' then
          let name := (rest.drop 1).takeWhile (· != '\x7d')
          if rest.head? != some '\x7b' || (rest.drop (name.length + 1)).isEmpty then none
          else do
            let code ← Text.characterNamed? (String.ofList name)
            continued (Char.ofNat code) (rest.drop (name.length + 2))
        else (unescape? kind fuel rest).map fun r => '\\' :: c :: r
  | fuel + 1, c :: rest => (unescape? kind fuel rest).map (c :: ·)

def string? (kind : StringKind) (cs : List Char) : Option (Token × List Char) :=
  match cs with
  | q :: _ => do
    let triple := [q, q, q]
    let quotes := if triple.isPrefixOf cs then triple else [q]
    let (inside, rest) ← quotedPart? quotes (cs.drop quotes.length)
    if kind.bytes && inside.any fun c => 0x80 ≤ c.toNat then none
    else if kind.formatted && inside.any fun c => c == '\x7b' || c == '\x7d' then
      some (.formatted, rest)
    else
      let chars ← unescape? kind (inside.length + 1) inside
      let v := if kind.bytes then Value.bytes (chars.map fun c => UInt8.ofNat c.toNat)
        else Value.text (String.ofList chars)
      some (.string v, rest)
  | [] => none

/-! ## Signs and lines -/

/-- The signs, longer ones before those that they begin with. -/
def signs : List String :=
  ["...", "**", "//", "<<", ">>", "<=", ">=", "==", "!=", ":=", "+", "-", "*", "/", "%", "@", "&",
   "|", "^", "~", "<", ">", "(", ")", "[", "]", "\x7b", "\x7d", ",", ":", ".", "="]

def sign? (cs : List Char) : Option (String × List Char) :=
  (signs.find? fun s => s.toList.isPrefixOf cs).map fun s => (s, cs.drop s.length)

def bracketLimit : Nat := 200

/-- The brackets that are open after a sign; nothing if it closes another one, or if there are too
many. -/
def brackets? (opened : List String) (sign : String) : Option (List String) :=
  let deeper := fun (close : String) =>
    if opened.length < bracketLimit then some (close :: opened) else none
  match sign, opened with
  | "(", _ => deeper ")"
  | "[", _ => deeper "]"
  | "\x7b", _ => deeper "\x7d"
  | s, close :: rest =>
    if s == ")" || s == "]" || s == "\x7d" then
      if s == close then some rest else none
    else some opened
  | s, [] => if s == ")" || s == "]" || s == "\x7d" then none else some []

def isGap (c : Char) : Bool :=
  c == ' ' || c == '\t' || c == '\x0c'

/-- Whether blanks at the beginning of a line indent it; a form feed takes the line back to its
beginning. -/
def isIndented (gap : List Char) : Bool :=
  !(gap.reverse.takeWhile (· != '\x0c')).isEmpty

/-- Whether lines hold nothing but blanks and comments. The last one is not indented if it holds
blanks alone. -/
def isIdle : List (List Char) → Bool
  | [] => true
  | line :: rest =>
    let gap := line.takeWhile isGap
    match line.drop gap.length with
    | [] => !(rest.isEmpty && isIndented gap) && isIdle rest
    | c :: _ => c == '#' && isIdle rest

def firstLine? : Nat → List Char → Option (List Char)
  | 0, _ => none
  | fuel + 1, cs =>
    let gap := cs.takeWhile isGap
    match cs.drop gap.length with
    | [] => none
    | '\n' :: rest => firstLine? fuel rest
    | '#' :: rest => firstLine? fuel ((rest.dropWhile (· != '\n')).drop 1)
    | rest => if isIndented gap then none else some rest

def scan? : Nat → List String → List Char → Option (List Token)
  | 0, _, _ => none
  | _, opened, [] => if opened.isEmpty then some [] else none
  | fuel + 1, opened, c :: rest =>
    let word := (c :: rest).takeWhile isWordChar
    let after := (c :: rest).drop word.length
    let followed := fun (t : Token) (rest : List Char) =>
      (scan? fuel opened rest).map (t :: ·)
    if isGap c then scan? fuel opened rest
    else if c == '#' then scan? fuel opened (rest.dropWhile (· != '\n'))
    else if c == '\n' then
      if !opened.isEmpty then scan? fuel opened rest
      else if isIdle (Text.splitAt '\n' rest) then some []
      else none
    else if c == '\\' then
      match rest with
      | '\n' :: more => if more.isEmpty then none else scan? fuel opened more
      | _ => none
    else if c.isDigit || (c == '.' && rest.head?.any Char.isDigit) then do
      let (t, rest) ← number? (c :: rest)
      followed t rest
    else
      let isQuote := fun (d : Char) => d == '\'' || d == '\"'
      match if after.head?.any isQuote then StringKind.ofLetters? word else none with
      | some kind => do
        let (t, rest) ← string? kind after
        followed t rest
      | none =>
        if word.isEmpty then do
          let (s, rest) ← sign? (c :: rest)
          let opened ← brackets? opened s
          (scan? fuel opened rest).map (.sign s :: ·)
        else if Text.isIdentifierList word then
          followed (.word (Text.normalForm (String.ofList word))) after
        else none

def withLineFeeds : List Char → List Char
  | '\r' :: '\n' :: rest => '\n' :: withLineFeeds rest
  | '\r' :: rest => '\n' :: withLineFeeds rest
  | c :: rest => c :: withLineFeeds rest
  | [] => []

def ofText? (text : List Char) : Option (List Token) := do
  let cs := withLineFeeds text
  let cs ← firstLine? (cs.length + 1) cs
  scan? (cs.length + 1) [] cs

end Token

end FormCheck.Expression
