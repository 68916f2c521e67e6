import FormCheck.Json.Reader
import FormCheck.Yaml.Source

/-! # Scalars of a YAML text

The texts of block scalars, of quoted scalars and of plain scalars. Line breaks inside a scalar are
folded: a single one stands for a blank, and of several all but the first are kept.
-/

namespace FormCheck.Yaml

abbrev Scalar := String × Source

/-! ## Block scalars -/

inductive Chomping where
  | clip
  | strip
  | keep
  deriving DecidableEq, Repr, Inhabited

def chomping? : Option Char → Option Chomping
  | some '+' => some .keep
  | some '-' => some .strip
  | _ => none

def blockHeader (s : Source) : Except Flaw (Chomping × Option Nat × Source) := do
  let first := chomping? (s.peek 0)
  let s := if first.isSome then s.forward 1 else s
  let digit := (s.peek 0).filter Char.isDigit
  if digit == some '0' then throw .malformed
  let s := if digit.isSome then s.forward 1 else s
  let second := if first.isNone && digit.isSome then chomping? (s.peek 0) else none
  let s := if second.isSome then s.forward 1 else s
  if endsWord (s.peek 0) then
    pure (((first.orElse fun _ => second).getD .clip), digit.map fun c => c.toNat - '0'.toNat, s)
  else throw .malformed

def skipIndent (s : Source) (indent : Nat) : Source :=
  s.forward (min (s.rest.takeWhile (· == ' ')).length (indent - s.column))

/-- The empty lines before a block scalar whose indentation is not known, and the greatest column
that blanks reach in them. The first number is fuel. -/
def leadingBreaks : Nat → Source → List Char → Nat → List Char × Nat × Source
  | 0, s, breaks, column => (breaks, column, s)
  | fuel + 1, s, breaks, column =>
    let s := s.skipBlanks
    let column := max column s.column
    let (lineBreak, next) := s.lineBreak
    if lineBreak.isEmpty then (breaks, column, s)
    else leadingBreaks fuel next (breaks ++ lineBreak) column

def blockBreaks (indent : Nat) : Nat → Source → List Char → List Char × Source
  | 0, s, breaks => (breaks, s)
  | fuel + 1, s, breaks =>
    let s := skipIndent s indent
    let (lineBreak, next) := s.lineBreak
    if lineBreak.isEmpty then (breaks, s)
    else blockBreaks indent fuel next (breaks ++ lineBreak)

def startsText (c : Option Char) : Bool :=
  c != some ' ' && c != some '\t'

/-- The lines of a block scalar from a place on, after some empty ones. Gives the text read, the
last line break and the empty lines after it. The first number is fuel. -/
def blockLines (indent : Nat) (folded : Bool) :
    Nat → Source → List Char → List Char → List Char → List Char × List Char × List Char × Source
  | 0, s, read, lineBreak, breaks => (read, lineBreak, breaks, s)
  | fuel + 1, s, read, lineBreak, breaks =>
    if s.column == indent && (s.peek 0).isSome then
      let (line, after) := s.span fun c => !isBreak c
      let read := read ++ breaks ++ line
      let (lineBreak, next) := after.lineBreak
      let (breaks, next) := blockBreaks indent (next.rest.length + 1) next []
      if next.column == indent && (next.peek 0).isSome then
        let folds := folded && lineBreak == ['\n'] && startsText (s.peek 0) &&
          startsText (next.peek 0)
        let joint := if folds then (if breaks.isEmpty then [' '] else []) else lineBreak
        blockLines indent folded fuel next (read ++ joint) lineBreak breaks
      else (read, lineBreak, breaks, next)
    else (read, lineBreak, breaks, s)

def blockScalar (indent : Int) (folded : Bool) (s : Source) : Except Flaw Scalar := do
  let (chomping, increment, s) ← blockHeader s
  let s ← s.finishLine
  let least := (max (indent + 1) 1).toNat
  let (breaks, level, s) := match increment with
    | some n =>
      let level := least + n - 1
      let (breaks, s) := blockBreaks level (s.rest.length + 1) s []
      (breaks, level, s)
    | none =>
      let (breaks, column, s) := leadingBreaks (s.rest.length + 1) s [] 0
      (breaks, max least column, s)
  let (read, lineBreak, breaks, s) := blockLines level folded (s.rest.length + 1) s [] [] breaks
  let tail := match chomping with
    | .clip => lineBreak
    | .strip => []
    | .keep => lineBreak ++ breaks
  pure (String.ofList (read ++ tail), s)

/-! ## Quoted scalars -/

def escape? : Char → Option Char
  | '0' => some '\x00'
  | 'a' => some '\x07'
  | 'b' => some '\x08'
  | 't' => some '\t'
  | '\t' => some '\t'
  | 'n' => some '\n'
  | 'v' => some '\x0b'
  | 'f' => some '\x0c'
  | 'r' => some '\x0d'
  | 'e' => some '\x1b'
  | ' ' => some ' '
  | '"' => some '"'
  | '\\' => some '\\'
  | '/' => some '/'
  | 'N' => some '\x85'
  | '_' => some '\xa0'
  | 'L' => some '\u2028'
  | 'P' => some '\u2029'
  | _ => none

def escapeDigits? : Char → Option Nat
  | 'x' => some 2
  | 'u' => some 4
  | 'U' => some 8
  | _ => none

def hexNumber? (cs : List Char) : Option Nat := do
  let ds ← cs.mapM Json.hexValue?
  pure (ds.foldl (fun n d => n * 16 + d) 0)

def charOfCode (n : Nat) : Except Flaw Char :=
  if 0x110000 ≤ n then .error (.code n)
  else if Json.isHigh n || Json.isLow n then .error .halfPair
  else .ok (Char.ofNat n)

def quotedBreaks : Nat → Source → List Char → Except Flaw (List Char × Source)
  | 0, _, _ => .error .malformed
  | fuel + 1, s, breaks =>
    if s.atDocumentMark then .error .malformed
    else
      let s := (s.span fun c => c == ' ' || c == '\t').2
      let (lineBreak, next) := s.lineBreak
      if lineBreak.isEmpty then .ok (breaks, s)
      else quotedBreaks fuel next (breaks ++ lineBreak)

def readEscape (s : Source) : Except Flaw (List Char × Source) :=
  match s.rest with
  | [] => .error .malformed
  | c :: _ =>
    match escape? c, escapeDigits? c with
    | some e, _ => .ok ([e], s.forward 1)
    | none, some length =>
      let digits := (s.rest.drop 1).take length
      if digits.length < length then .error .malformed
      else match hexNumber? digits with
        | none => .error .malformed
        | some n => (charOfCode n).map fun e => ([e], s.forward (length + 1))
    | none, none =>
      if isBreak c then
        let next := s.lineBreak.2
        quotedBreaks (next.rest.length + 1) next []
      else .error .malformed

def isQuotedText (c : Char) : Bool :=
  !(c == '"' || c == '\x27' || c == '\\' || c == ' ' || c == '\t' || isBreak c)

def quotedSpaces (s : Source) : Except Flaw (List Char × Source) := do
  let (blanks, s) := s.span fun c => c == ' ' || c == '\t'
  if s.rest.isEmpty then throw .malformed
  let (lineBreak, next) := s.lineBreak
  if lineBreak.isEmpty then pure (blanks, s)
  else do
    let (breaks, s) ← quotedBreaks (next.rest.length + 1) next []
    let joint := if lineBreak != ['\n'] then lineBreak
      else if breaks.isEmpty then [' '] else []
    pure (joint ++ breaks, s)

def quotedRest (double : Bool) : Nat → Source → List Char → Except Flaw Scalar
  | 0, _, _ => .error .malformed
  | fuel + 1, s, read =>
    let quote := if double then '"' else '\x27'
    let (text, s) := s.span isQuotedText
    let read := read ++ text
    match s.rest with
    | [] => .error .malformed
    | c :: rest =>
      if c == quote then
        if !double && rest.head? == some quote then
          quotedRest double fuel (s.forward 2) (read ++ [quote])
        else .ok (String.ofList read, s.forward 1)
      else if c == '\\' && double then do
        let (text, s) ← readEscape (s.forward 1)
        quotedRest double fuel s (read ++ text)
      else if c == ' ' || c == '\t' || isBreak c then do
        let (text, s) ← quotedSpaces s
        quotedRest double fuel s (read ++ text)
      else quotedRest double fuel (s.forward 1) (read ++ [c])

def quotedScalar (double : Bool) (s : Source) : Except Flaw Scalar :=
  quotedRest double (s.rest.length + 1) (s.forward 1) []

/-! ## Plain scalars -/

def isFlowMark (c : Char) : Bool :=
  c == ',' || c == '[' || c == ']' || c == '\x7b' || c == '\x7d'

def plainLength (inFlow : Bool) : List Char → Nat
  | [] => 0
  | c :: rest =>
    let ends := endsItem (some c) ||
      (c == ':' && (endsItem rest.head? || (inFlow && rest.head?.any isFlowMark))) ||
      (inFlow && (c == '?' || isFlowMark c))
    if ends then 0 else plainLength inFlow rest + 1

def plainBreaks : Nat → Source → List Char → Option (List Char) × Source
  | 0, s, breaks => (some breaks, s)
  | fuel + 1, s, breaks =>
    if s.atDocumentMark && s.column == 0 then (none, s)
    else
      let s := s.skipBlanks
      let (lineBreak, next) := s.lineBreak
      if lineBreak.isEmpty then (some breaks, s)
      else plainBreaks fuel next (breaks ++ lineBreak)

/-- The blanks and line breaks between pieces of a plain scalar, whether there was a line break,
and the place after them. No characters mean that the scalar ends. -/
def plainSpaces (s : Source) : List Char × Bool × Source :=
  let (blanks, s) := s.span (· == ' ')
  let (lineBreak, next) := s.lineBreak
  if lineBreak.isEmpty then (blanks, false, s)
  else
    match plainBreaks (next.rest.length + 1) next [] with
    | (none, s) => ([], true, s)
    | (some breaks, s) =>
      let joint := if lineBreak != ['\n'] then lineBreak
        else if breaks.isEmpty then [' '] else []
      (joint ++ breaks, true, s)

def plainPieces (inFlow : Bool) (indent : Int) :
    Nat → Source → List Char → List Char → Bool → Scalar × Bool
  | 0, s, read, _, broke => ((String.ofList read, s), broke)
  | fuel + 1, s, read, spaces, broke =>
    let length := if s.at? '#' then 0 else plainLength inFlow s.rest
    if length = 0 then ((String.ofList read, s), broke)
    else
      let read := read ++ spaces ++ s.rest.take length
      let (spaces, broke, next) := plainSpaces (s.forward length)
      if spaces.isEmpty || next.at? '#' || (!inFlow && (next.column : Int) < indent) then
        ((String.ofList read, next), broke)
      else plainPieces inFlow indent fuel next read spaces broke

/-- The plain scalar at a place inside the given indentation, and whether a key may follow because a
line began. -/
def plainScalar (inFlow : Bool) (indent : Int) (s : Source) : Scalar × Bool :=
  plainPieces inFlow (indent + 1) (s.rest.length + 1) s [] [] false

end FormCheck.Yaml
