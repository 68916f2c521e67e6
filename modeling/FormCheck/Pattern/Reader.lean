import FormCheck.Number.Digits
import FormCheck.Pattern.Basic
import FormCheck.Pattern.Flaw
import FormCheck.Text.CharacterName
import FormCheck.Text.Identifier

/-! # Reading pattern texts

A pattern text is read token by token, where a token is a character or a backslash with the
character after it. One token is always read ahead, so a lone backslash at the end is found as soon
as the token before it is taken. Recursion is bounded by twice the length of the text: every turn
takes a token, and only entering a choice takes none.
-/

namespace FormCheck.Pattern

inductive Mode where
  | ascii
  | ignoreCase
  | locale
  | multiline
  | dotAll
  | template
  | unicode
  | verbose
  deriving DecidableEq, Repr, Inhabited

namespace Mode

def ofChar? : Char → Option Mode
  | 'a' => some .ascii
  | 'i' => some .ignoreCase
  | 'L' => some .locale
  | 'm' => some .multiline
  | 's' => some .dotAll
  | 't' => some .template
  | 'u' => some .unicode
  | 'x' => some .verbose
  | _ => none

def ofToken? : List Char → Option Mode
  | [c] => ofChar? c
  | _ => none

def isType : Mode → Bool
  | .ascii | .locale | .unicode => true
  | _ => false

def change (modes on off : List Mode) : List Mode :=
  let kept := if on.any isType then modes.filter (!·.isType) else modes
  (kept ++ on).filter (!off.contains ·)

def folding (modes : List Mode) : Folding :=
  if modes.contains .ignoreCase then (if modes.contains .ascii then .ascii else .full) else .exact

end Mode

/-- A node in a sequence. It is simple if it was read there as a single sign: no group, repetition
or test of what stands around. -/
structure Part where
  node : Node
  isSimple : Bool
  deriving DecidableEq, Repr, Inhabited

def Part.simple (node : Node) : Part :=
  { node, isSimple := true }

def Part.compound (node : Node) : Part :=
  { node, isSimple := false }

def Part.together (parts : List Part) : Node :=
  .sequence (parts.map (·.node))

/-- What was read as one item of a sequence, with what a repetition sign after it has to know. A
group without a number and without modes of its own puts its parts into the sequence. -/
structure Item where
  parts : List Part
  isAnchor : Bool := false
  isRepeated : Bool := false

def Item.simple (node : Node) : Item :=
  { parts := [.simple node] }

def Item.compound (node : Node) : Item :=
  { parts := [.compound node] }

def Item.anchor (a : Anchor) : Item :=
  { parts := [.simple (.anchor a)], isAnchor := true }

structure Reading where
  length : Nat
  ahead : Option (List Char)
  rest : List Char
  index : Nat
  widths : List (Option (Nat × Nat))
  names : List (String × Nat)
  lookbehind : Option Nat
  references : List (Nat × Nat)
  modes : List Mode

abbrev Reads := StateT Reading (Except Flaw)

namespace Reads

/-! ## Tokens -/

def position : Reads Nat := do
  let r ← get
  return r.index - (r.ahead.getD []).length

def fail {α : Type} (reason : Reason) (back : Nat) : Reads α := do
  throw (.reason reason (some ((← position) - back)))

def advance : Reads Unit := do
  let r ← get
  match r.rest with
  | [] => set { r with ahead := none }
  | ['\\'] => throw (.reason .trailingBackslash (some (r.length - 1)))
  | '\\' :: c :: rest => set { r with ahead := some ['\\', c], rest, index := r.index + 2 }
  | c :: rest => set { r with ahead := some [c], rest, index := r.index + 1 }

def next : Reads (Option (List Char)) := do
  let this := (← get).ahead
  advance
  return this

def accept (c : Char) : Reads Bool := do
  if (← get).ahead = some [c] then
    advance
    return true
  else
    return false

def takeWhile (kind : Char → Bool) : Nat → Reads (List Char)
  | 0 => return []
  | n + 1 => do
    match (← get).ahead with
    | some [c] =>
      if kind c then
        advance
        return c :: (← takeWhile kind n)
      else
        return []
    | _ => return []

def takeUntil (terminator : Char) (what : String) : Nat → List Char → Reads String
  | 0, _ => throw (.reason .unexpectedEnd none)
  | fuel + 1, found => do
    match ← next with
    | none =>
      if found.isEmpty then fail (.missing what) 0
      else fail (.unterminatedName terminator) found.length
    | some token =>
      if token = [terminator] then
        if found.isEmpty then fail (.missing what) 1 else return String.ofList found
      else
        takeUntil terminator what fuel (found ++ token)

def name (terminator : Char) (what : String) : Reads String := do
  takeUntil terminator what ((← get).length + 2) []

def checkName (name : String) : Reads Unit := do
  if !Text.isIdentifier name then
    fail (.badGroupName name) (name.length + 1)

/-! ## Groups -/

def openGroup (name : Option String) : Reads Nat := do
  let r ← get
  let index := r.widths.length + 1
  match name with
  | none => pure ()
  | some n =>
    match r.names.lookup n with
    | some previous => fail (.groupRedefined n index previous) (n.length + 1)
    | none => pure ()
  modify fun r => { r with
    widths := r.widths ++ [none]
    names := match name with
      | some n => r.names ++ [(n, index)]
      | none => r.names }
  return index

def closeGroup (index : Nat) (width : Nat × Nat) : Reads Unit :=
  modify fun r => { r with widths := r.widths.set (index - 1) (some width) }

def closed? (index : Nat) : Reads (Option (Nat × Nat)) := do
  return (((← get).widths)[index - 1]?).join

/-- Refuses to refer, inside a test of what stands behind, to a group that it defines. -/
def checkLookbehind (index : Nat) : Reads Unit := do
  match (← get).lookbehind with
  | none => pure ()
  | some firstInside =>
    if (← closed? index).isNone then fail .openGroup 0
    if firstInside ≤ index then fail .lookbehindGroup 0

def reference (modes : List Mode) (index back : Nat) : Reads Node := do
  match ← closed? index with
  | none => fail .openGroup back
  | some (least, most) =>
    checkLookbehind index
    return .captured index (Mode.folding modes) least most

/-! ## Escapes -/

def isOctal (c : Char) : Bool := '0' ≤ c && c ≤ '7'

def isHex (c : Char) : Bool :=
  c.isDigit || ('a' ≤ c && c ≤ 'f') || ('A' ≤ c && c ≤ 'F')

def isAsciiLetter (c : Char) : Bool := c.isAlpha

def hexValue (c : Char) : Nat :=
  if c.isDigit then c.toNat - 48 else if 'a' ≤ c then c.toNat - 87 else c.toNat - 55

def valueOf (base : Nat) (ds : List Char) : Nat :=
  ds.foldl (fun n d => base * n + hexValue d) 0

def hexEscape (escape : List Char) (places : Nat) : Reads Nat := do
  let ds ← takeWhile isHex places
  let whole := escape ++ ds
  if ds.length ≠ places then
    fail (.incompleteEscape (String.ofList whole)) whole.length
  let code := valueOf 16 ds
  if 0x7fffffff < code then throw .numberTooLarge
  if 0x10ffff < code then
    fail (.badEscape (String.ofList whole)) whole.length
  return code

def nameEscape : Reads Nat := do
  if !(← accept '\x7b') then fail .missingBrace 0
  let n ← name '\x7d' "character name"
  match Text.characterNamed? n with
  | some code => return code
  | none => fail (.undefinedCharacterName n) (n.length + 4)

def controlEscape? : Char → Option Nat
  | 'a' => some 7
  | 'b' => some 8
  | 'f' => some 12
  | 'n' => some 10
  | 'r' => some 13
  | 't' => some 9
  | 'v' => some 11
  | '\\' => some 92
  | _ => none

def categoryEscape? : Char → Option Member
  | 'd' => some (.category .digit false)
  | 'D' => some (.category .digit true)
  | 's' => some (.category .blank false)
  | 'S' => some (.category .blank true)
  | 'w' => some (.category .word false)
  | 'W' => some (.category .word true)
  | _ => none

def codeEscape? (c : Char) : Option (Reads Nat) :=
  match c with
  | 'x' => some (hexEscape ['\\', c] 2)
  | 'u' => some (hexEscape ['\\', c] 4)
  | 'U' => some (hexEscape ['\\', c] 8)
  | 'N' => some nameEscape
  | _ => none

def octalValue (escape : List Char) : Reads Nat := do
  let code := valueOf 8 (escape.drop 1)
  if 0o377 < code then
    fail (.octalTooLarge (String.ofList escape)) escape.length
  return code

def setEscape (c : Char) : Reads Member := do
  match controlEscape? c, categoryEscape? c, codeEscape? c with
  | some code, _, _ => return .code code
  | _, some category, _ => return category
  | _, _, some read => return .code (← read)
  | none, none, none =>
    if isOctal c then
      let ds ← takeWhile isOctal 2
      return .code (← octalValue ('\\' :: c :: ds))
    else if c.isDigit || isAsciiLetter c then
      fail (.badEscape (String.ofList ['\\', c])) 2
    else
      return .code c.toNat

/-- A digit escape outside sets: an octal code or a reference to a group. -/
def digitEscape (modes : List Mode) (c : Char) : Reads (Nat ⊕ Node) := do
  let second ← takeWhile Char.isDigit 1
  let third ← match second with
    | [d] => if isOctal c && isOctal d then takeWhile isOctal 1 else pure []
    | _ => pure []
  let ds := c :: second ++ third
  if third.length = 1 then
    return .inl (← octalValue ('\\' :: ds))
  else
    let index := valueOf 10 ds
    if index ≤ (← get).widths.length then
      return .inr (← reference modes index (ds.length + 1))
    else
      fail (.badGroupReference index) ds.length

def setOf (modes : List Mode) (negated : Bool) (members : List Member) : Node :=
  .one (.of (Mode.folding modes) (modes.contains .ascii) negated members)

def literal (modes : List Mode) (code : Nat) : Item :=
  .simple (setOf modes false [.code code])

def escape (modes : List Mode) (c : Char) : Reads Item := do
  let at? : Option Anchor := match c with
    | 'A' => some .start
    | 'b' => some (.boundary (modes.contains .ascii) false)
    | 'B' => some (.boundary (modes.contains .ascii) true)
    | 'Z' => some .finalEnd
    | _ => none
  match at?, categoryEscape? c, controlEscape? c, codeEscape? c with
  | some a, _, _, _ => return .anchor a
  | _, some category, _, _ => return .simple (setOf modes false [category])
  | _, _, some code, _ => return literal modes code
  | _, _, _, some read => return literal modes (← read)
  | none, none, none, none =>
    if c = '0' then
      let ds ← takeWhile isOctal 2
      return literal modes (valueOf 8 ds)
    else if c.isDigit then
      match ← digitEscape modes c with
      | .inl code => return literal modes code
      | .inr node => return .simple node
    else if isAsciiLetter c then
      fail (.badEscape (String.ofList ['\\', c])) 2
    else
      return literal modes c.toNat

/-! ## Sets -/

def setMember : List Char → Reads Member
  | ['\\', c] => setEscape c
  | [c] => return .code c.toNat
  | _ => return .code 0

def setMembers (start : Nat) : Nat → List Member → Reads (List Member)
  | 0, _ => throw (.reason .unexpectedEnd none)
  | fuel + 1, members => do
    match ← next with
    | none => throw (.reason .unterminatedSet (some start))
    | some this =>
      if this = [']'] && !members.isEmpty then return members
      let first ← setMember this
      if ← accept '-' then
        match ← next with
        | none => throw (.reason .unterminatedSet (some start))
        | some that =>
          if that = [']'] then
            return members ++ [first, .code '-'.toNat]
          let second ← setMember that
          let refuse : Reads (List Member) :=
            fail (.badRange (String.ofList this) (String.ofList that))
              (this.length + 1 + that.length)
          match first, second with
          | .code low, .code high =>
            if high < low then refuse
            else setMembers start fuel (members ++ [.range low high])
          | _, _ => refuse
      else
        setMembers start fuel (members ++ [first])

def charSet (modes : List Mode) : Reads Item := do
  let start := (← position) - 1
  let negated ← accept '^'
  let members ← setMembers start ((← get).length + 2) []
  return .simple (setOf modes negated members)

/-! ## Repetition -/

def count (ds : List Char) : Reads Nat := do
  if Number.digitLimit < ds.length then throw (.integerTooLong ds.length)
  let n := valueOf 10 ds
  if repeatLimit ≤ n then throw .numberTooLarge
  return n

/-- The bounds of a repetition sign; nothing if a brace turns out to stand for itself. -/
def bounds (sign : Char) (start : Nat) : Reads (Option (Nat × Option Nat)) := do
  if sign = '?' then return some (0, some 1)
  else if sign = '*' then return some (0, none)
  else if sign = '+' then return some (1, none)
  else if (← get).ahead = some ['\x7d'] then return none
  else
    let before ← get
    let low ← takeWhile Char.isDigit before.length
    let high ← if ← accept ',' then takeWhile Char.isDigit before.length else pure low
    if !(← accept '\x7d') then
      set before
      return none
    let least ← count low
    let most ← if high.isEmpty then pure none else some <$> count high
    if most.any (· < least) then fail .repeatBounds ((← position) - start)
    return some (least, most)

/-- The last item under a repetition sign that began at `start - 1`. -/
def repeated (items : List Item) (least : Nat) (most : Option Nat) (start : Nat) :
    Reads (List Item) := do
  match items with
  | [] => fail .nothingToRepeat ((← position) - start + 1)
  | item :: before =>
    if item.isAnchor then fail .nothingToRepeat ((← position) - start + 1)
    if item.isRepeated then fail .multipleRepeat ((← position) - start + 1)
    let lazy ← accept '?'
    let possessive ← if lazy then pure false else accept '+'
    let greed := if lazy then Greed.lazy else if possessive then .possessive else .greedy
    let node := Node.times greed least most (Part.together item.parts)
    return { parts := [.compound node], isRepeated := true } :: before

/-! ## Modes -/

def isLetterToken : List Char → Bool
  | [c] => Text.letters.contains c
  | _ => false

def modesOn : Nat → List Mode → List Char → Reads (List Mode × List Char)
  | 0, _, _ => throw (.reason .unexpectedEnd none)
  | fuel + 1, on, token => do
    match Mode.ofToken? token with
    | none => return (on, token)
    | some mode =>
      if mode = .locale then fail .localeMode 0
      let on := if on.contains mode then on else on ++ [mode]
      if mode.isType && on.any (fun m => m.isType && m != mode) then fail .modesIncompatible 0
      match ← next with
      | none => fail .modesUnclosed 0
      | some token =>
        if token = [')'] || token = ['-'] || token = [':'] then return (on, token)
        if (Mode.ofToken? token).isNone then
          fail (if isLetterToken token then .unknownMode else .modesUnclosed) token.length
        modesOn fuel on token

def modesOff : Nat → List Mode → List Char → Reads (List Mode)
  | 0, _, _ => throw (.reason .unexpectedEnd none)
  | fuel + 1, off, token => do
    match Mode.ofToken? token with
    | none => return off
    | some mode =>
      if mode.isType then fail .typeModeOff 0
      let off := if off.contains mode then off else off ++ [mode]
      match ← next with
      | none => fail .missingColon 0
      | some token =>
        if token = [':'] then return off
        if (Mode.ofToken? token).isNone then
          fail (if isLetterToken token then .unknownMode else .missingColon) token.length
        modesOff fuel off token

def groupModes (token : List Char) : Reads (Option (List Mode × List Mode)) := do
  let fuel := (← get).length + 2
  let (on, token) ← if token = ['-'] then pure ([], token) else modesOn fuel [] token
  if token = [')'] then
    modify fun r => { r with modes := r.modes ++ on.filter (!r.modes.contains ·) }
    return none
  if on.contains .template then fail .globalModeOn 1
  let off ← if token = ['-'] then do
      match ← next with
      | none => fail .missingMode 0
      | some token =>
        if (Mode.ofToken? token).isNone then
          fail (if isLetterToken token then .unknownMode else .missingMode) token.length
        modesOff fuel [] token
    else pure []
  if off.contains .template then fail .globalModeOff 1
  if on.any off.contains then fail .modeOnAndOff 1
  return some (on, off)

/-! ## Groups and sequences -/

def digitValues? : List Char → Option (List Nat)
  | [] => none
  | [c] => (Text.digitValue? c).map ([·])
  | c :: '_' :: rest => do return (← Text.digitValue? c) :: (← digitValues? rest)
  | c :: rest => do return (← Text.digitValue? c) :: (← digitValues? rest)

/-- The number of a group as a condition writes it: spaces around it, a sign and single underscores
between digits are allowed. -/
def conditionNumber? (s : String) : Option Nat := do
  let (negative, unsigned) := match Text.trimList s.toList with
    | '+' :: rest => (false, rest)
    | '-' :: rest => (true, rest)
    | cs => (false, cs)
  let ds ← digitValues? unsigned
  let n := Number.ofDigits ds
  if Number.digitLimit < ds.length || (negative && n ≠ 0) then none else some n

def condition : Reads Nat := do
  let n ← name ')' "group name"
  let back := n.length + 1
  if Text.isIdentifier n then
    match (← get).names.lookup n with
    | some index => return index
    | none => fail (.unknownGroupName n) back
  else
    match conditionNumber? n with
    | none => fail (.badGroupName n) back
    | some 0 => fail .badGroupNumber back
    | some index =>
      if Nat.pow 2 30 - 1 ≤ index then fail (.badGroupReference index) back
      let here := (← position) - back
      modify fun r =>
        if (r.references.lookup index).isSome then r
        else { r with references := r.references ++ [(index, here)] }
      return index

def skipComment (start : Nat) : Nat → Reads Unit
  | 0 => throw (.reason .unexpectedEnd none)
  | fuel + 1 => do
    if (← get).ahead.isNone then throw (.reason .unterminatedComment (some start))
    if (← next) ≠ some [')'] then skipComment start fuel

def skipLine : Nat → Reads Unit
  | 0 => throw (.reason .unexpectedEnd none)
  | fuel + 1 => do
    match ← next with
    | none => return
    | some token => if token ≠ ['\n'] then skipLine fuel

def closeParenthesis (start : Nat) : Reads Unit := do
  if !(← accept ')') then throw (.reason .unterminatedGroup (some start))

def isLayout : List Char → Bool
  | [c] => c == ' ' || ('\t' ≤ c && c ≤ '\x0d')
  | _ => false

inductive Opening where
  | plain (name : Option String)
  | uncounted
  | moded (modes : List Mode)
  | atomic
  | look (behind negated : Bool)
  | conditional
  | done (item : Option Item)
  | modesSet

def opening (modes : List Mode) (start : Nat) : Reads Opening := do
  if !(← accept '?') then return .plain none
  match ← next with
  | none => fail .unexpectedEnd 0
  | some ['P'] =>
    if ← accept '<' then
      let n ← name '>' "group name"
      checkName n
      return .plain (some n)
    else if ← accept '=' then
      let n ← name ')' "group name"
      checkName n
      match (← get).names.lookup n with
      | none => fail (.unknownGroupName n) (n.length + 1)
      | some index => return .done (some (.simple (← reference modes index (n.length + 1))))
    else
      match ← next with
      | none => fail .unexpectedEnd 0
      | some token => fail (.unknownExtension ("P" ++ String.ofList token)) (token.length + 2)
  | some [':'] => return .uncounted
  | some ['#'] => do
    skipComment start ((← get).length + 2)
    return .done none
  | some ['='] => return .look false false
  | some ['!'] => return .look false true
  | some ['<'] =>
    match ← next with
    | none => fail .unexpectedEnd 0
    | some ['='] => return .look true false
    | some ['!'] => return .look true true
    | some token => fail (.unknownExtension ("<" ++ String.ofList token)) (token.length + 2)
  | some ['('] => return .conditional
  | some ['>'] => return .atomic
  | some token =>
    if token = ['-'] || (Mode.ofToken? token).isSome then
      match ← groupModes token with
      | none => return .modesSet
      | some (on, off) => return .moded (Mode.change modes on off)
    else
      fail (.unknownExtension (String.ofList token)) (token.length + 1)

/-- What parts of several sequences have in common at their beginning, if they are single signs, and
what is left of each sequence. -/
def commonStart : List Part → List (List Part) → List Part × List (List Part)
  | [], others => ([], [] :: others)
  | p :: ps, others =>
    if p.isSimple && others.all (·.head? = some p) then
      let (common, rests) := commonStart ps (others.map (·.drop 1))
      (p :: common, rests)
    else
      ([], (p :: ps) :: others)

def setMembers? (branches : List (List Part)) : Option (List Member) := do
  let sets ← branches.mapM fun
    | [⟨.one set, true⟩] => if set.negated then none else some set.members
    | _ => none
  return sets.flatten

def choiceOf (modes : List Mode) : List (List Part) → List Part
  | [] => []
  | [branch] => branch
  | branch :: others =>
    let (common, rests) := commonStart branch others
    match setMembers? rests with
    | some members => common ++ [.simple (setOf modes false members)]
    | none => common ++ [.compound (.choice (rests.map Part.together))]

mutual

/-- Alternatives up to a closing parenthesis or the end; `top` if they are the whole pattern. -/
def choice (top : Bool) (modes : List Mode) : Nat → List (List Part) → Reads (List Part)
  | 0, _ => throw (.reason .unexpectedEnd none)
  | fuel + 1, branches => do
    let global := (← get).modes
    let modes := if top then global else modes
    let branch ← sequence (top && branches.isEmpty) modes fuel []
    if ← accept '|' then choice top modes fuel (branches ++ [branch])
    else return choiceOf modes (branches ++ [branch])

/-- Items up to a bar, a closing parenthesis or the end, the last one first in the list; modes for
the whole pattern may stand only before the very `first` of them. -/
def sequence (first : Bool) (modes : List Mode) : Nat → List Item → Reads (List Part)
  | 0, _ => throw (.reason .unexpectedEnd none)
  | fuel + 1, items => do
    match (← get).ahead with
    | none | some ['|'] | some [')'] => return items.reverse.flatMap (·.parts)
    | some this =>
      advance
      if modes.contains .verbose && isLayout this then
        sequence first modes fuel items
      else if modes.contains .verbose && this = ['#'] then
        skipLine ((← get).length + 2)
        sequence first modes fuel items
      else
        match this with
        | ['\\', c] => sequence first modes fuel ((← escape modes c) :: items)
        | ['['] => sequence first modes fuel ((← charSet modes) :: items)
        | ['.'] =>
          sequence first modes fuel (.simple (.any (modes.contains .dotAll)) :: items)
        | ['^'] =>
          let a := if modes.contains .multiline then Anchor.lineStart else .start
          sequence first modes fuel (.anchor a :: items)
        | ['$'] =>
          let a := if modes.contains .multiline then Anchor.lineFinish else .finish
          sequence first modes fuel (.anchor a :: items)
        | ['('] =>
          let start := (← position) - 1
          match ← opening modes start with
          | .modesSet =>
            if !first || !items.isEmpty then throw (.reason .globalModesInside (some start))
            let now := (← get).modes
            sequence first now fuel items
          | .done none => sequence first modes fuel items
          | .done (some item) => sequence first modes fuel (item :: items)
          | .look behind negated =>
            let outer := (← get).lookbehind
            if behind && outer.isNone then
              modify fun r => { r with lookbehind := some (r.widths.length + 1) }
            let body ← choice false modes fuel []
            if behind then modify fun r => { r with lookbehind := outer }
            closeParenthesis start
            let look := Node.look behind negated (Part.together body)
            sequence first modes fuel (.compound look :: items)
          | .conditional =>
            let index ← condition
            checkLookbehind index
            let yes ← sequence false modes fuel []
            let no ←
              if ← accept '|' then do
                let no ← sequence false modes fuel []
                if (← get).ahead = some ['|'] then fail .tooManyBranches 0
                pure no
              else pure []
            closeParenthesis start
            let node := Node.whenCaptured index (Part.together yes) (Part.together no)
            sequence first modes fuel (.compound node :: items)
          | .uncounted =>
            let parts ← choice false modes fuel []
            closeParenthesis start
            sequence first modes fuel ({ parts } :: items)
          | .moded inner =>
            let body ← choice false inner fuel []
            closeParenthesis start
            sequence first modes fuel (.compound (Part.together body) :: items)
          | .atomic =>
            let body ← choice false modes fuel []
            closeParenthesis start
            sequence first modes fuel (.compound (.atomic (Part.together body)) :: items)
          | .plain name =>
            let index ← openGroup name
            let body ← choice false modes fuel []
            closeParenthesis start
            let body := Part.together body
            closeGroup index body.width
            sequence first modes fuel (.compound (.group index body) :: items)
        | [c] =>
          if c = '*' || c = '+' || c = '?' || c = '\x7b' then
            let start ← position
            match ← bounds c start with
            | none => sequence first modes fuel (literal modes c.toNat :: items)
            | some (least, most) =>
              sequence first modes fuel (← repeated items least most start)
          else
            sequence first modes fuel (literal modes c.toNat :: items)
        | _ => throw (.reason .unexpectedEnd none)

end

end Reads

/-! ## Whole patterns -/

/-- The first flaw of a pattern that has been read: repetition in a template, or a test of what
stands behind whose width is not fixed. -/
def Node.flaw? (template : Bool) : Node → Option Flaw
  | .seq a b => (a.flaw? template).or (b.flaw? template)
  | .alt a b => (a.flaw? template).or (b.flaw? template)
  | .times greed _ _ body =>
    if template then
      let operator := match greed with
        | .greedy => "MAX_REPEAT"
        | .lazy => "MIN_REPEAT"
        | .possessive => "POSSESSIVE_REPEAT"
      some (.reason (.unsupportedInTemplate operator) none)
    else body.flaw? template
  | .group _ body => body.flaw? template
  | .whenCaptured _ yes no => (yes.flaw? template).or (no.flaw? template)
  | .look behind _ body =>
    let (least, most) := body.width
    if behind && least ≠ most then some (.reason .lookbehindWidth none)
    else body.flaw? template
  | .atomic body => body.flaw? template
  | .empty | .any _ | .one _ | .anchor _ | .captured .. => none

def readWhole : Reads Node := do
  Reads.advance
  let fuel := 2 * (← get).length + 4
  let node := Part.together (← Reads.choice true [] fuel [])
  let r ← get
  if r.modes.contains .ascii && r.modes.contains .unicode then throw .conflictingModes
  if r.ahead.isSome then Reads.fail .unbalancedParenthesis 0
  match r.references.find? fun (index, _) => r.widths.length < index with
  | some (index, position) => throw (.reason (.badGroupReference index) (some position))
  | none => pure ()
  match node.flaw? (r.modes.contains .template) with
  | some flaw => throw flaw
  | none => return node

def readList (cs : List Char) : Except Flaw Node :=
  readWhole.run'
    { length := cs.length, ahead := none, rest := cs, index := 0, widths := [], names := []
      lookbehind := none, references := [], modes := [] }

def read (s : String) : Except Flaw Node :=
  readList s.toList

end FormCheck.Pattern
