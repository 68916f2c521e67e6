import FormCheck.Yaml.Token
import FormCheck.Yaml.Token.Scalar

/-! # Reading tokens

The tokens of a YAML text. In block context the column of a token opens and closes collections. A
token that may turn out to be a key is remembered until a colon follows on its line; then the mark
of a key, and of the mapping it opens, are put before it. The text is read no further than the next
token asks for, so that of two flaws the one is met first that comes first.
-/

namespace FormCheck.Yaml

/-- A token that may turn out to be a key. A required one has to. -/
structure KeyCandidate where
  tokenIndex : Nat
  required : Bool
  index : Nat
  line : Nat
  column : Nat
  deriving Repr, Inhabited

/-- How far a text of some length has been read into tokens, and how many of them have been taken.
Candidates are kept for each level of flow collections, and outer indentations for the time after
the current one. -/
structure Lexer where
  source : Source
  flowLevel : Nat
  tokens : Array Token
  taken : Nat
  finished : Bool
  length : Nat
  indent : Int
  outer : List Int
  keyAllowed : Bool
  candidates : List (Nat × KeyCandidate)
  deriving Repr, Inhabited

namespace Lexer

abbrev Step := StateT Lexer (Except Flaw)

def fail {α : Type} : Step α :=
  throw .malformed

def emit (t : Token) : Step Unit :=
  modify fun l => { l with tokens := l.tokens.push t }

def forward (n : Nat) : Step Unit :=
  modify fun l => { l with source := l.source.forward n }

def goTo (s : Source) : Step Unit :=
  modify fun l => { l with source := s }

def allowKey (allowed : Bool) : Step Unit :=
  modify fun l => { l with keyAllowed := allowed }

/-! ## Candidates for keys -/

def KeyCandidate.isStale (k : KeyCandidate) (s : Source) : Bool :=
  k.line != s.line || 1024 < s.index - k.index

def dropStale : Step Unit := do
  let l ← get
  let stale := l.candidates.filter fun k => KeyCandidate.isStale k.2 l.source
  if stale.any (·.2.required) then fail
  set { l with candidates := l.candidates.filter fun k => !KeyCandidate.isStale k.2 l.source }

def dropCandidate : Step Unit := do
  let l ← get
  match l.candidates.lookup l.flowLevel with
  | none => pure ()
  | some k =>
    if k.required then fail
    else set { l with candidates := l.candidates.filter (·.1 != l.flowLevel) }

def saveCandidate : Step Unit := do
  let l ← get
  if l.keyAllowed then
    dropCandidate
    modify fun l =>
      let k : KeyCandidate :=
        { tokenIndex := l.tokens.size
          required := l.flowLevel == 0 && l.indent == l.source.column
          index := l.source.index, line := l.source.line, column := l.source.column }
      { l with candidates := (l.flowLevel, k) :: l.candidates.filter (·.1 != l.flowLevel) }

/-! ## Indentation -/

def closeBeyond (column : Int) : List Int → Int → Array Token → List Int × Int × Array Token
  | [], indent, tokens => ([], indent, tokens)
  | i :: rest, indent, tokens =>
    if column < indent then closeBeyond column rest i (tokens.push .blockEnd)
    else (i :: rest, indent, tokens)

def unwind (column : Int) : Step Unit :=
  modify fun l =>
    if l.flowLevel != 0 then l
    else
      let (outer, indent, tokens) := closeBeyond column l.outer l.indent l.tokens
      { l with outer, indent, tokens }

def indentTo (column : Int) : Step Bool := do
  let l ← get
  if l.indent < column then
    set { l with outer := l.indent :: l.outer, indent := column }
    pure true
  else pure false

/-! ## Directives, names and tags -/

def isNameChar (c : Char) : Bool :=
  c.isAlphanum || c == '-' || c == '_'

def isTagChar (c : Char) : Bool :=
  c.isAlphanum || "-;/?:@&=+$,_.!~*'()[]%".toList.contains c

def readVersionNumber (s : Source) : Except Flaw (List Char × Source) := do
  let (digits, s) := s.span Char.isDigit
  if digits.isEmpty then throw .malformed
  if Number.digitLimit < digits.length then throw (.integerTooLong digits.length)
  pure (digits, s)

def readVersion (s : Source) : Except Flaw (Token × Source) := do
  let (major, s) ← readVersionNumber s.skipBlanks
  if !s.at? '.' then throw .malformed
  let (_, s) ← readVersionNumber (s.forward 1)
  if !endsWord (s.peek 0) then throw .malformed
  pure (.versionDirective (Number.ofDigits (major.map fun c => c.toNat - '0'.toNat)), s)

def readHandle (s : Source) : Except Flaw (String × Source) := do
  if !s.at? '!' then throw .malformed
  let after := s.forward 1
  if after.at? ' ' then pure ("!", after)
  else
    let (name, next) := after.span isNameChar
    if next.at? '!' then pure ("!" ++ String.ofList name ++ "!", next.forward 1)
    else throw .malformed

def readCodes : Nat → Source → List UInt8 → Except Flaw (List UInt8 × Source)
  | 0, _, _ => .error .malformed
  | fuel + 1, s, bytes =>
    if s.at? '%' then
      let digits := (s.rest.drop 1).take 2
      match hexNumber? digits with
      | some n =>
        if digits.length = 2 then readCodes fuel (s.forward 3) (bytes ++ [n.toUInt8])
        else .error .malformed
      | none => .error .malformed
    else .ok (bytes, s)

def readTagChars : Nat → Source → List Char → Except Flaw (List Char × Source)
  | 0, _, _ => .error .malformed
  | fuel + 1, s, read =>
    match s.rest with
    | '%' :: _ => do
      let (bytes, s) ← readCodes (s.rest.length + 1) s []
      match String.fromUTF8? ⟨bytes.toArray⟩ with
      | some text => readTagChars fuel s (read ++ text.toList)
      | none => throw .malformed
    | c :: _ =>
      if isTagChar c then readTagChars fuel (s.forward 1) (read ++ [c]) else .ok (read, s)
    | [] => .ok (read, s)

def readSuffix (s : Source) : Except Flaw (String × Source) := do
  let first := s.rest.head?
  if !first.any isTagChar then throw .malformed
  let (read, s) ← readTagChars (s.rest.length + 1) s []
  pure (String.ofList read, s)

def readTagDirective (s : Source) : Except Flaw (Token × Source) := do
  let (handle, s) ← readHandle s.skipBlanks
  if !s.at? ' ' then throw .malformed
  let (expansion, s) ← readSuffix s.skipBlanks
  if endsWord (s.peek 0) then pure (.tagDirective handle expansion, s) else throw .malformed

def readDirective (s : Source) : Except Flaw (Token × Source) := do
  let (name, s) := (s.forward 1).span isNameChar
  if name.isEmpty || !endsWord (s.peek 0) then throw .malformed
  let (token, s) ← match String.ofList name with
    | "YAML" => readVersion s
    | "TAG" => readTagDirective s
    | _ => pure (.otherDirective, (s.span fun c => !isBreak c).2)
  let s ← s.finishLine
  pure (token, s)

def readName (s : Source) : Except Flaw (String × Source) := do
  let (name, s) := (s.forward 1).span isNameChar
  let ends := endsItem (s.peek 0) || (s.peek 0).any fun c => "?:,]%@\x60\x7d".toList.contains c
  if name.isEmpty || !ends then throw .malformed
  pure (String.ofList name, s)

def hasHandle (cs : List Char) : Bool :=
  (cs.takeWhile fun c => !endsWord (some c)).contains '!'

def readTag (s : Source) : Except Flaw (Token × Source) := do
  let (token, s) ← match s.peek 1 with
    | some '<' => do
      let (suffix, s) ← readSuffix (s.forward 2)
      if s.at? '>' then pure (Token.tag none suffix, s.forward 1) else throw .malformed
    | c =>
      if endsItem c then pure (Token.tag none "!", s.forward 1)
      else if hasHandle (s.rest.drop 1) then do
        let (handle, s) ← readHandle s
        let (suffix, s) ← readSuffix s
        pure (Token.tag (some handle) suffix, s)
      else do
        let (suffix, s) ← readSuffix (s.forward 1)
        pure (Token.tag (some "!") suffix, s)
  if endsWord (s.peek 0) then pure (token, s) else throw .malformed

/-! ## Tokens -/

def skip : Nat → Step Unit
  | 0 => pure ()
  | fuel + 1 => do
    let l ← get
    let s := l.source.skipBlanks.skipComment
    let (lineBreak, next) := s.lineBreak
    if lineBreak.isEmpty then goTo s
    else do
      goTo next
      if l.flowLevel == 0 then allowKey true
      skip fuel

def leaveBlocks : Step Unit := do
  unwind (-1)
  dropCandidate
  allowKey false

def take (n : Nat) (t : Token) : Step Unit := do
  forward n
  emit t

def emitRead (read : Source → Except Flaw (Token × Source)) : Step Unit := do
  let l ← get
  let (t, s) ← read l.source
  goTo s
  emit t

def emitItem (read : Source → Except Flaw (Token × Source)) : Step Unit := do
  saveCandidate
  allowKey false
  emitRead read

def openFlow (t : Token) : Step Unit := do
  saveCandidate
  modify fun l => { l with flowLevel := l.flowLevel + 1 }
  allowKey true
  take 1 t

def closeFlow (t : Token) : Step Unit := do
  dropCandidate
  let l ← get
  if l.flowLevel == 0 then fail
  set { l with flowLevel := l.flowLevel - 1 }
  allowKey false
  take 1 t

def openBlock (t : Token) : Step Unit := do
  let l ← get
  if l.flowLevel == 0 then
    if !l.keyAllowed then fail
    if ← indentTo l.source.column then emit t

def blockEntry : Step Unit := do
  openBlock .blockSequenceStart
  allowKey true
  dropCandidate
  take 1 .blockEntry

def explicitKey : Step Unit := do
  openBlock .blockMappingStart
  let l ← get
  allowKey (l.flowLevel == 0)
  dropCandidate
  take 1 .key

/-- Makes a candidate a key: its mark, and that of the mapping it opens, go before it. -/
def confirm (k : KeyCandidate) : Step Unit := do
  modify fun l =>
    { l with
      candidates := l.candidates.filter (·.1 != l.flowLevel)
      tokens := l.tokens.insertIdxIfInBounds k.tokenIndex .key }
  let l ← get
  if l.flowLevel == 0 then
    if ← indentTo k.column then
      modify fun l =>
        { l with tokens := l.tokens.insertIdxIfInBounds k.tokenIndex .blockMappingStart }
  allowKey false

def mappingValue : Step Unit := do
  let l ← get
  match l.candidates.lookup l.flowLevel with
  | some k => confirm k
  | none => do
    openBlock .blockMappingStart
    allowKey (l.flowLevel == 0)
    dropCandidate
  take 1 .value

def blockText (folded : Bool) : Step Unit := do
  allowKey true
  dropCandidate
  let l ← get
  let (text, s) ← blockScalar l.indent folded (l.source.forward 1)
  goTo s
  emit (.scalar text false)

def quotedText (double : Bool) : Step Unit :=
  emitItem fun s => (quotedScalar double s).map fun t => (.scalar t.1 false, t.2)

def plainText : Step Unit := do
  saveCandidate
  let l ← get
  let ((text, s), broke) := plainScalar (l.flowLevel != 0) l.indent l.source
  allowKey broke
  goTo s
  emit (.scalar text true)

def startsPlain (inFlow : Bool) (c : Char) (next : Option Char) : Bool :=
  (!endsItem (some c) && !("-?:,[]#&*!|>%@\x22\x27\x60\x7b\x7d".toList.contains c)) ||
    (!endsItem next && (c == '-' || (!inFlow && (c == '?' || c == ':'))))

def readToken (s : Source) (inFlow : Bool) (c : Char) : Step Unit :=
  let next := s.peek 1
  let atStart := s.column == 0
  if c == '%' && atStart then do
    leaveBlocks
    emitRead readDirective
  else if atStart && s.atDocumentMark then do
    leaveBlocks
    take 3 (if c == '-' then .documentStart else .documentEnd)
  else match c with
    | '[' => openFlow .flowSequenceStart
    | ']' => closeFlow .flowSequenceEnd
    | '\x7b' => openFlow .flowMappingStart
    | '\x7d' => closeFlow .flowMappingEnd
    | ',' => do
      allowKey true
      dropCandidate
      take 1 .flowEntry
    | '*' => emitItem fun s => (readName s).map fun n => (.alias n.1, n.2)
    | '&' => emitItem fun s => (readName s).map fun n => (.anchor n.1, n.2)
    | '!' => emitItem readTag
    | '\x27' => quotedText false
    | '"' => quotedText true
    | c =>
      if c == '-' && endsItem next then blockEntry
      else if c == '?' && (inFlow || endsItem next) then explicitKey
      else if c == ':' && (inFlow || endsItem next) then mappingValue
      else if c == '|' && !inFlow then blockText false
      else if c == '>' && !inFlow then blockText true
      else if startsPlain inFlow c next then plainText
      else fail

def readNext : Step Unit := do
  let l ← get
  skip (l.length + 1)
  dropStale
  let l ← get
  unwind l.source.column
  match l.source.rest with
  | [] => do
    leaveBlocks
    emit .streamEnd
    modify fun l => { l with finished := true }
  | c :: _ => readToken l.source (l.flowLevel != 0) c

/-! ## Tokens in order -/

/-- Whether the next token is still unknown: it was not read yet, or it may turn out to be a key. -/
def isPending : Step Bool := do
  let l ← get
  if l.finished then pure false
  else if l.tokens.size ≤ l.taken then pure true
  else do
    dropStale
    let l ← get
    pure (l.candidates.any fun k => k.2.tokenIndex == l.taken)

def settle : Nat → Step Unit
  | 0 => fail
  | fuel + 1 => do
    if ← isPending then do
      readNext
      settle fuel

/-- The next token. Nothing after it is read unless that decides what it is. -/
def peek : Step Token := do
  let l ← get
  settle (l.length + 3)
  let l ← get
  pure (l.tokens[l.taken]?.getD .streamEnd)

def start (cs : List Char) : Lexer :=
  { source := .ofText cs, flowLevel := 0, tokens := #[], taken := 0, finished := false
    length := cs.length, indent := -1, outer := [], keyAllowed := true, candidates := [] }

end Lexer

def isAllowed (c : Char) : Bool :=
  let n := c.toNat
  c == '\t' || c == '\n' || c == '\x0d' || (0x20 ≤ n && n ≤ 0x7E) || n == 0x85 ||
    (0xA0 ≤ n && n ≤ 0xFFFD) || 0x10000 ≤ n

def withoutMark : List Char → List Char
  | '\ufeff' :: rest => rest
  | cs => cs

def Lexer.ofText (cs : List Char) : Except Flaw Lexer :=
  if cs.all isAllowed then .ok (start (withoutMark cs)) else .error .malformed

end FormCheck.Yaml
