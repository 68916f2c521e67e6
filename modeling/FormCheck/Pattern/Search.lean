import FormCheck.Pattern.Basic

/-! # Searching a text for a pattern

A node runs at a cursor and hands every cursor that it can reach, in order of preference, to what
comes after it, until that succeeds. A text matches a pattern if the pattern can run to its end
from some place.

Repetition first takes the least number of turns. After that a turn is tried only if the one
before it moved the cursor, so the number of turns is bounded by the characters left.

A run notes places: where a choice or a repetition tries a way on, and where a body ends. A
possessive repetition whose last turn fails does not go back to where that turn began; what comes
after it goes on from the place noted last. So even failures tell a place.
-/

namespace FormCheck.Pattern

/-- A place between two characters of a text; the characters before it are listed from the
nearest. -/
structure Place where
  before : List Char
  after : List Char
  index : Nat
  deriving DecidableEq, Repr, Inhabited

structure Cursor extends Place where
  captures : List (Nat × List Char)
  noted : Place
  deriving DecidableEq, Repr, Inhabited

namespace Cursor

def start (p : Place) : Cursor :=
  { p with captures := [], noted := p }

def note (c : Cursor) : Cursor :=
  { c with noted := c.toPlace }

def moveTo (c : Cursor) (p : Place) : Cursor :=
  { p with captures := c.captures, noted := p }

def step? (c : Cursor) : Option (Char × Cursor) :=
  match c.after with
  | [] => none
  | x :: after => some (x, { c with before := x :: c.before, after, index := c.index + 1 })

def back? (c : Cursor) : Nat → Option Cursor
  | 0 => some c
  | n + 1 =>
    match c.before with
    | [] => none
    | x :: before => back? { c with before, after := x :: c.after, index := c.index - 1 } n

/-- The cursor with what lies between an earlier place and it captured by a group; a group that
ends before it starts captures nothing. -/
def capture (c : Cursor) (index : Nat) (start : Place) : Cursor :=
  if start.index ≤ c.index then
    { c with captures := (index, start.after.take (c.index - start.index)) :: c.captures }
  else
    { c with captures := c.captures.filter (·.1 ≠ index) }

def skip? (c : Cursor) (folding : Folding) : List Char → Option Cursor
  | [] => some c
  | x :: xs => do
    let (y, c') ← c.step?
    if folding.common x.toNat = folding.common y.toNat then skip? c' folding xs else none

/-- Whether the character at a cursor is of a set; every cursor is fit for what tests no set. -/
def fits (c : Cursor) : Option CharSet → Bool
  | none => true
  | some set => c.after.head?.any set.contains

end Cursor

/-- Whether a position satisfies an anchor. No boundary is seen in an empty text. -/
def Anchor.holds (a : Anchor) (c : Cursor) : Bool :=
  match a with
  | .start => c.before.isEmpty
  | .lineStart => c.before.head?.all (· == '\n')
  | .finish => c.after.isEmpty || c.after == ['\n']
  | .lineFinish => c.after.head?.all (· == '\n')
  | .finalEnd => c.after.isEmpty
  | .boundary ascii negated =>
    if c.before.isEmpty && c.after.isEmpty then false
    else
      let isWord := fun (x : Option Char) => x.any (Category.word.contains ascii)
      (isWord c.before.head? != isWord c.after.head?) != negated

/-- How a run ends: at a cursor, or nowhere, with the place noted last. -/
inductive Outcome where
  | reached (c : Cursor)
  | stuck (noted : Place)
  deriving DecidableEq, Repr, Inhabited

namespace Outcome

def orElse (o : Outcome) (next : Place → Outcome) : Outcome :=
  match o with
  | .reached c => .reached c
  | .stuck noted => next noted

def stuckAt (o : Outcome) (p : Place) : Outcome :=
  o.orElse fun _ => .stuck p

def cursor? : Outcome → Option Cursor
  | .reached c => some c
  | .stuck _ => none

end Outcome

abbrev Continuation := Cursor → Outcome

def finish : Continuation :=
  fun c => .reached c.note

/-! ## Repetition of one character -/

def stops (kind : Char → Bool) : Nat → Cursor → List Cursor
  | 0, c => [c]
  | n + 1, c =>
    match c.step? with
    | some (x, c') => if kind x then c :: stops kind n c' else [c]
    | none => [c]

def tryEach (k : Continuation) : List Cursor → Place → Outcome
  | [], noted => .stuck noted
  | c :: cs, _ => (k c.note).orElse (tryEach k cs)

def characters (kind : Char → Bool) (greed : Greed) (least : Nat) (most : Option Nat)
    (follow : Option CharSet) (c : Cursor) (k : Continuation) : Outcome :=
  let left := c.after.length
  if left < least then .stuck c.noted
  else
    let ends := (stops kind (min left (most.getD left)) c).drop least
    match greed with
    | .greedy =>
      let literal := follow.filter (·.literal?.isSome)
      tryEach k (ends.reverse.filter (·.fits literal)) c.toPlace
    | .lazy => tryEach (fun c' => (k c').stuckAt c'.toPlace) ends c.toPlace
    | .possessive =>
      match ends.getLast? with
      | some c' => k { c' with noted := c.toPlace }
      | none => .stuck c.toPlace

/-! ## Repetition of any body -/

abbrev Body := Cursor → Continuation → Outcome

def turns (body : Body) : Nat → Cursor → Continuation → Outcome
  | 0, c, k => k c
  | n + 1, c, k => (body c.note fun c' => turns body n c' k).stuckAt c.toPlace

/-- Further turns of a body, up to a number if one is given; `last` is where the turn before this
one started. -/
def moreTurns (body : Body) (eager : Bool) :
    Nat → Option Nat → Option Nat → Cursor → Continuation → Outcome
  | 0, _, _, c, k => k c.note
  | fuel + 1, most, last, c, k =>
    let another := fun (_ : Place) =>
      if most = some 0 ∨ last = some c.index then .stuck c.toPlace
      else body c.note fun c' =>
        moreTurns body eager fuel (most.map (· - 1)) (some c.index) c' k
    let leave := fun (_ : Place) => k c.note
    let outcome :=
      if eager then (another c.toPlace).orElse leave else (leave c.toPlace).orElse another
    outcome.stuckAt c.toPlace

def allTurns (body : Body) (eager : Bool) (least : Nat) (most : Option Nat) (c : Cursor)
    (k : Continuation) : Outcome :=
  turns body least c fun c' =>
    moreTurns body eager (c'.after.length + 2) (most.map (· - least)) none c' k

def firstTurns (body : Body) : Nat → Cursor → Option Cursor
  | 0, c => some c
  | n + 1, c => (body c finish).cursor?.bind (firstTurns body n)

/-- Where a possessive repetition leaves off: behind its last turn, or where a further turn that
failed noted a place. -/
def lastTurns (body : Body) : Nat → Option Nat → Option Nat → Cursor → Cursor
  | 0, _, _, c => c
  | fuel + 1, most, last, c =>
    if most = some 0 ∨ last = some c.index then c
    else
      match body c finish with
      | .reached c' => lastTurns body fuel (most.map (· - 1)) (some c.index) c'
      | .stuck noted => c.moveTo noted

def ownTurns (body : Body) (least : Nat) (most : Option Nat) (c : Cursor) (k : Continuation) :
    Outcome :=
  match firstTurns body least c.note with
  | some c' => k (lastTurns body (c'.after.length + 2) (most.map (· - least)) none c')
  | none => .stuck c.toPlace

/-! ## Nodes -/

/-- Runs a node at a cursor and continues from where it ends, with something that begins with the
given set. -/
def Node.run : Node → Option CharSet → Cursor → Continuation → Outcome
  | .empty, _, c, k => k c
  | .any newline, _, c, k =>
    match c.step? with
    | some (x, c') => if newline || x != '\n' then k c' else .stuck c.noted
    | none => .stuck c.noted
  | .one set, _, c, k =>
    match c.step? with
    | some (x, c') => if set.contains x then k c' else .stuck c.noted
    | none => .stuck c.noted
  | .anchor a, _, c, k => if a.holds c then k c else .stuck c.noted
  | .seq a b, follow, c, k => a.run (b.leading? follow) c fun c' => b.run follow c' k
  | .alt a b, _, c, k =>
    let first := if c.fits (a.leading? none) then a.run none c.note k else .stuck c.noted
    first.orElse fun noted =>
      if b.isChoice then b.run none { c with noted } k
      else if c.fits (b.leading? none) then b.run none c.note k
      else .stuck noted
  | .times greed least most body, follow, c, k =>
    match body.unit?, greed with
    | some kind, greed => characters kind greed least most follow c k
    | none, .greedy => allTurns (fun c k => body.run none c k) true least most c k
    | none, .lazy => allTurns (fun c k => body.run none c k) false least most c k
    | none, .possessive => ownTurns (fun c k => body.run none c k) least most c k
  | .group index body, _, c, k => body.run none c fun c' => k (c'.capture index c.toPlace)
  | .captured index folding _ _, _, c, k =>
    match (c.captures.lookup index).bind (c.skip? folding) with
    | some c' => k c'
    | none => .stuck c.noted
  | .whenCaptured index yes no, follow, c, k =>
    if (c.captures.lookup index).isSome then
      yes.run (if no.isEmpty then follow else none) c k
    else
      no.run follow c k
  | .look behind negated body, _, c, k =>
    match if behind then c.back? body.width.1 else some c with
    | none => if negated then k c else .stuck c.noted
    | some start =>
      match body.run none start.note finish with
      | .reached c' =>
        if negated then .stuck c'.toPlace
        else k { c with captures := c'.captures, noted := c'.toPlace }
      | .stuck noted => if negated then k { c with noted } else .stuck noted
  | .atomic body, _, c, k =>
    match body.run none c.note finish with
    | .reached c' => k c'
    | .stuck _ => .stuck c.toPlace

/-- Where a pattern ends when run from the first place, at or behind the given one, from which it
can run to its end; places with fewer characters left than a number are left out. -/
def Node.find? (n : Node) (least : Nat) (p : Place) : Option Cursor :=
  go p.before p.index p.after.length p.after
where
  go (before : List Char) (index left : Nat) (after : List Char) : Option Cursor :=
    if left < least then none
    else
      match (n.run none (.start { before, after, index }) finish).cursor?, after with
      | some c, _ => some c
      | none, [] => none
      | none, x :: after => go (x :: before) (index + 1) (left - 1) after

/-- Whether a pattern occurs in a list of characters. A run may give back what it did not take, so
it may also begin one place later than its width lets expect. -/
def Node.occursIn (n : Node) (text : List Char) : Bool :=
  let least := n.width.1
  least ≤ text.length &&
    (n.find? (least - 1) { before := [], after := text, index := 0 }).isSome

def Node.matches (n : Node) (text : String) : Bool :=
  n.occursIn text.toList

end FormCheck.Pattern
