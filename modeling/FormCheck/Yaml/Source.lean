import FormCheck.Yaml.Flaw

/-! # Places in a YAML text

A place knows how many characters and lines came before it and its column. Five characters break
lines; the byte order mark takes no column.
-/

namespace FormCheck.Yaml

structure Source where
  index : Nat
  line : Nat
  column : Nat
  rest : List Char
  deriving Repr, Inhabited

def isBreak (c : Char) : Bool :=
  c == '\n' || c == '\x0d' || c == '\x85' || c == '\u2028' || c == '\u2029'

def endsLine : Option Char → Bool
  | none => true
  | some c => isBreak c

def endsWord : Option Char → Bool
  | none => true
  | some c => isBreak c || c == ' '

/-- Whether the line or the word ends with what comes next, where a tab ends words too. -/
def endsItem : Option Char → Bool
  | none => true
  | some c => isBreak c || c == ' ' || c == '\t'

namespace Source

def ofText (cs : List Char) : Source :=
  { index := 0, line := 0, column := 0, rest := cs }

def peek (s : Source) (n : Nat) : Option Char :=
  (s.rest.drop n).head?

def at? (s : Source) (c : Char) : Bool :=
  s.rest.head? == some c

def forward (s : Source) : Nat → Source
  | 0 => s
  | n + 1 =>
    match s.rest with
    | [] => s
    | c :: rest =>
      let breaks := isBreak c && !(c == '\x0d' && rest.head? == some '\n')
      let next : Source :=
        if breaks then { index := s.index + 1, line := s.line + 1, column := 0, rest }
        else
          { index := s.index + 1, line := s.line
            column := if c == '\ufeff' then s.column else s.column + 1, rest }
      next.forward n

def span (s : Source) (accept : Char → Bool) : List Char × Source :=
  let taken := s.rest.takeWhile accept
  (taken, s.forward taken.length)

def skipBlanks (s : Source) : Source :=
  (s.span (· == ' ')).2

def skipComment (s : Source) : Source :=
  if s.at? '#' then (s.span fun c => !isBreak c).2 else s

def lineBreak (s : Source) : List Char × Source :=
  match s.rest with
  | '\x0d' :: '\n' :: _ => (['\n'], s.forward 2)
  | c :: _ =>
    if c == '\x0d' || c == '\n' || c == '\x85' then (['\n'], s.forward 1)
    else if isBreak c then ([c], s.forward 1)
    else ([], s)
  | [] => ([], s)

def finishLine (s : Source) : Except Flaw Source :=
  let s := s.skipBlanks.skipComment
  if endsLine (s.peek 0) then .ok s.lineBreak.2 else .error .malformed

def atDocumentMark (s : Source) : Bool :=
  match s.rest with
  | '-' :: '-' :: '-' :: rest => endsItem rest.head?
  | '.' :: '.' :: '.' :: rest => endsItem rest.head?
  | _ => false

end Source

end FormCheck.Yaml
