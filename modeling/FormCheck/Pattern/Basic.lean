import FormCheck.Text.Blank
import FormCheck.Text.Digit
import FormCheck.Text.Letter
import FormCheck.Text.Upper

/-! # Patterns

A pattern describes texts: single characters from a set, positions, captured groups and what they
captured, repetition, choice, and tests of what stands ahead or behind. Case and script modes are
resolved where a node is made, so a node means the same wherever it stands.
-/

namespace FormCheck.Pattern

inductive Folding where
  | exact
  | ascii
  | full
  deriving DecidableEq, Repr, Inhabited

inductive Category where
  | digit
  | blank
  | word
  deriving DecidableEq, Repr, Inhabited

/-- One member of a character set. Where case is folded, a member `lowered` takes the characters
with the given lower-case form, and a member `raised` also takes those whose upper-case form lies
in its range. -/
inductive Member where
  | code (n : Nat)
  | lowered (n : Nat)
  | range (low high : Nat)
  | raised (low high : Nat)
  | category (kind : Category) (negated : Bool)
  deriving DecidableEq, Repr, Inhabited

/-- A set of characters, possibly complemented. Its folding is exact unless a member has cases. -/
structure CharSet where
  negated : Bool
  members : List Member
  folding : Folding
  ascii : Bool
  deriving DecidableEq, Repr, Inhabited

inductive Anchor where
  | start
  | lineStart
  | finish
  | lineFinish
  | finalEnd
  | boundary (ascii negated : Bool)
  deriving DecidableEq, Repr, Inhabited

/-- Whether a repetition tries more first, tries fewer first, or never gives back. -/
inductive Greed where
  | greedy
  | lazy
  | possessive
  deriving DecidableEq, Repr, Inhabited

inductive Node where
  | empty
  | any (newline : Bool)
  | one (set : CharSet)
  | anchor (a : Anchor)
  | seq (first second : Node)
  | alt (first second : Node)
  | times (greed : Greed) (least : Nat) (most : Option Nat) (body : Node)
  | group (index : Nat) (body : Node)
  | captured (index : Nat) (folding : Folding) (least most : Nat)
  | whenCaptured (index : Nat) (yes no : Node)
  | look (behind negated : Bool) (body : Node)
  | atomic (body : Node)
  deriving DecidableEq, Repr, Inhabited

/-! ## Characters -/

def Category.hasAscii (k : Category) (c : Char) : Bool :=
  match k with
  | .digit => c.isDigit
  | .blank => c == ' ' || ('\t' ≤ c && c ≤ '\x0d')
  | .word => c.isAlphanum || c == '_'

def Category.has (k : Category) (c : Char) : Bool :=
  match k with
  | .digit => Text.decimalDigits.contains c
  | .blank => Text.blanks.contains c
  | .word => Text.wordChars.contains c

def Category.contains (k : Category) (ascii : Bool) (c : Char) : Bool :=
  if ascii then k.hasAscii c else k.has c

def Folding.variants (f : Folding) (code : Nat) : List Nat :=
  match f with
  | .exact => [code]
  | .ascii => Text.asciiCaseVariants code
  | .full => Text.caseVariants code

def Folding.common (f : Folding) (code : Nat) : Nat :=
  match f with
  | .exact => code
  | .ascii => Text.asciiLowerCode code
  | .full => Text.lowerCode code

def Folding.anyCased (f : Folding) (low high : Nat) : Bool :=
  match f with
  | .exact => false
  | .ascii => (low ≤ 90 && 65 ≤ high) || (low ≤ 122 && 97 ≤ high)
  | .full => Text.anyCased low high

def Member.takes (folding : Folding) (ascii : Bool) (c : Char) (variants : List Nat) :
    Member → Bool
  | .code n => variants.contains n
  | .lowered n => folding.common c.toNat == n
  | .range low high => variants.any fun v => low ≤ v && v ≤ high
  | .raised low high =>
    let upper := Text.upperCode (folding.common c.toNat)
    (upper :: variants).any fun v => low ≤ v && v ≤ high
  | .category kind negated => kind.contains ascii c != negated

def CharSet.contains (s : CharSet) (c : Char) : Bool :=
  let variants := s.folding.variants c.toNat
  s.members.any (·.takes s.folding s.ascii c variants) != s.negated

def beyondBasic : Nat := 0x10000

/-- A member of a set of several as it is under a folding: beyond the basic plane, a code point
stands for a lower-case form and the upper-case forms in a range are added to it. -/
def Member.under (folding : Folding) (m : Member) : Member :=
  match folding, m with
  | .exact, m => m
  | _, .code n => if beyondBasic ≤ n then .lowered n else .code n
  | _, .range low high => if beyondBasic ≤ high then .raised low high else .range low high
  | _, m => m

def Member.isCased (folding : Folding) : Member → Bool
  | .code n => folding.anyCased n n
  | .range low high => folding.anyCased low high
  | .lowered _ | .raised .. => true
  | .category .. => false

def CharSet.of (folding : Folding) (ascii negated : Bool) (members : List Member) : CharSet :=
  let members := match (members.map (·.under folding)).eraseDups with
    | [.lowered n] => [.code n]
    | several => several
  let folding := if members.any (·.isCased folding) then folding else .exact
  { negated, members, folding, ascii }

def CharSet.literal? (s : CharSet) : Option Nat :=
  match s with
  | ⟨false, [.code n], .exact, _⟩ => some n
  | _ => none

/-! ## Nodes -/

def Node.sequence : List Node → Node
  | [] => .empty
  | [n] => n
  | n :: ns => .seq n (sequence ns)

def Node.isEmpty : Node → Bool
  | .empty => true
  | _ => false

def Node.isChoice : Node → Bool
  | .alt .. => true
  | _ => false

/-- The choice between the nodes of a list, earlier ones first. What stands second in a choice and
is a choice goes on with it; a last node that is a choice of its own is kept apart from that. -/
def Node.choice : List Node → Node
  | [] => .empty
  | [n] => if n.isChoice then .seq n .empty else n
  | n :: ns => .alt n (choice ns)

def Node.unit? : Node → Option (Char → Bool)
  | .any newline => some fun x => newline || x != '\n'
  | .one set => some set.contains
  | _ => none

/-- The set of which the next character has to be before a node is worth a try, where what comes
after it begins with the given one. -/
def Node.leading? : Node → Option CharSet → Option CharSet
  | .empty, rest => rest
  | .one set, _ =>
    if set.folding = .exact && !(set.negated && { set with negated := false }.literal?.isSome)
    then some set else none
  | .seq a b, rest => a.leading? (b.leading? rest)
  | _, _ => none

/-- The greatest number of repetitions plus one, which also stands for an unbounded number. -/
def repeatLimit : Nat := Nat.pow 2 32 - 1

def widthWithin (least most : Nat) : Nat × Nat :=
  (min least (repeatLimit - 1), min most repeatLimit)

/-- The least and the greatest number of characters that a node takes, within the limit. -/
def Node.width : Node → Nat × Nat
  | .empty => (0, 0)
  | .any _ => (1, 1)
  | .one _ => (1, 1)
  | .anchor _ => (0, 0)
  | .seq a b =>
    let (l, h) := a.width
    let (l', h') := b.width
    widthWithin (l + l') (h + h')
  | .alt a b =>
    let (l, h) := a.width
    let (l', h') := b.width
    (min l l', max h h')
  | .times _ least most body =>
    let (l, h) := body.width
    widthWithin (l * least) (h * most.getD repeatLimit)
  | .group _ body => body.width
  | .captured _ _ least most => (least, most)
  | .whenCaptured _ yes no =>
    let (l, h) := yes.width
    let (l', h') := no.width
    (min l l', max h h')
  | .look .. => (0, 0)
  | .atomic body => body.width

end FormCheck.Pattern
