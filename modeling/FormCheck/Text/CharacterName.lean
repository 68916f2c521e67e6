import FormCheck.Text.CharacterName.Alias
import FormCheck.Text.CharacterName.Ancient
import FormCheck.Text.CharacterName.Compatibility
import FormCheck.Text.CharacterName.Cuneiform
import FormCheck.Text.CharacterName.EastAsian
import FormCheck.Text.CharacterName.MiddleEastern
import FormCheck.Text.CharacterName.Pictorial
import FormCheck.Text.CharacterName.Regional
import FormCheck.Text.CharacterName.Sign
import FormCheck.Text.CharacterName.SouthAsian
import FormCheck.Text.CharacterName.Supplementary
import FormCheck.Text.CharacterName.Western
import FormCheck.Text.Listing

/-! # Character names

The character names of Unicode 14. Unified ideographs are named by their code and Hangul syllables
by their sounds, both in capital letters only; all other names are found without regard to case.

Names are listed in lines. A line begins with the code of its first character; the names of this
and the following characters come after it, parted by semicolons. Each name begins with the number
of pieces that it shares with the name before, where a piece ends with a blank or a hyphen.
-/

namespace FormCheck.Text

namespace CharacterName

/-! ## Listed names -/

def lines : List String :=
  [western, middleEastern, southAsian, regional, sign, eastAsian, compatibility, ancient, cuneiform,
    supplementary, pictorial].flatten

def firstPieces : Nat → List Char → List Char
  | 0, _ => []
  | n + 1, cs =>
    let piece := cs.takeWhile fun c => c != ' ' && c != '-'
    match cs.drop piece.length with
    | [] => piece
    | mark :: rest => piece ++ mark :: firstPieces n rest

def nameAfter (before : List Char) : List Char → List Char
  | [] => []
  | count :: rest => firstPieces (count.toNat - 48) before ++ rest

/-- Looks for a name among entries of which the first has the given code; the result is its code,
or the last name that was seen. -/
def findEntry (name : List Char) : Nat → List Char → List (List Char) → Nat ⊕ List Char
  | _, before, [] => .inr before
  | code, before, entry :: others =>
    let this := nameAfter before entry
    if this = name then .inl code else findEntry name (code + 1) this others

def findLine (name : List Char) : List Char → List String → Option Nat
  | _, [] => none
  | before, line :: others => do
    let cs := line.toList
    let number := cs.takeWhile (· != ' ')
    let first ← hexNumber? number
    match findEntry name first before (splitAt ';' (cs.drop (number.length + 1))) with
    | .inl code => some code
    | .inr last => findLine name last others

/-! ## Names by rule -/

def after? (beginning : String) (name : List Char) : Option (List Char) :=
  let b := beginning.toList
  if b.isPrefixOf name then some (name.drop b.length) else none

def ideographs : List (Nat × Nat) :=
  [(0x3400, 0x4dbf), (0x4e00, 0x9fff), (0x20000, 0x2a6df), (0x2a700, 0x2b738), (0x2b740, 0x2b81d),
    (0x2b820, 0x2cea1), (0x2ceb0, 0x2ebe0), (0x30000, 0x3134a)]

def inRanges (ranges : List (Nat × Nat)) (code : Nat) : Bool :=
  ranges.any fun (low, high) => low ≤ code && code ≤ high

def ideograph? (ds : List Char) : Option Nat :=
  if ds.length = 4 ∨ ds.length = 5 then (hexNumber? ds).filter (inRanges ideographs) else none

def codedNames : List (String × List (Nat × Nat)) :=
  [("CJK COMPATIBILITY IDEOGRAPH-", [(0xf900, 0xfa6d), (0xfa70, 0xfad9), (0x2f800, 0x2fa1d)]),
    ("KHITAN SMALL SCRIPT CHARACTER-", [(0x18b00, 0x18cd5)]),
    ("NUSHU CHARACTER-", [(0x1b170, 0x1b2fb)])]

def coded? (name : List Char) : Option Nat :=
  codedNames.findSome? fun (beginning, ranges) => do
    let ds ← after? beginning name
    if ds.head? = some '0' then none else (hexNumber? ds).filter (inRanges ranges)

def selector? (name : List Char) : Option Nat := do
  let ds ← after? "VS" name
  if ds.head? = some '0' || !ds.all Char.isDigit then none
  let n := ds.foldl (fun n d => 10 * n + (d.toNat - 48)) 0
  if 1 ≤ n ∧ n ≤ 16 then some (0xfe00 + n - 1)
  else if 17 ≤ n ∧ n ≤ 256 then some (0xe0100 + n - 17)
  else none

def leads : List String :=
  ["G", "GG", "N", "D", "DD", "R", "M", "B", "BB", "S", "SS", "", "J", "JJ", "C", "K", "T", "P",
    "H"]

def vowels : List String :=
  ["A", "AE", "YA", "YAE", "EO", "E", "YEO", "YE", "O", "WA", "WAE", "OE", "YO", "U", "WEO", "WE",
    "WI", "YU", "EU", "YI", "I"]

def tails : List String :=
  ["", "G", "GG", "GS", "N", "NJ", "NH", "D", "L", "LG", "LM", "LB", "LS", "LT", "LP", "LH", "M",
    "B", "BS", "S", "SS", "NG", "J", "C", "K", "T", "P", "H"]

def sound? (sounds : List String) (cs : List Char) : Option (Nat × List Char) :=
  sounds.zipIdx.foldl (fun best (s, i) =>
    match after? s cs, best with
    | some rest, some (j, shortest) =>
      if rest.length < shortest.length then some (i, rest) else some (j, shortest)
    | some rest, none => some (i, rest)
    | none, best => best) none

def syllable? (cs : List Char) : Option Nat := do
  let (lead, cs) ← sound? leads cs
  let (vowel, cs) ← sound? vowels cs
  let (tail, cs) ← sound? tails cs
  if cs.isEmpty then
    some (0xac00 + (lead * vowels.length + vowel) * tails.length + tail)
  else
    none

end CharacterName

open CharacterName

def characterNamed? (name : String) : Option Nat :=
  let cs := name.toList
  match after? "HANGUL SYLLABLE " cs, after? "CJK UNIFIED IDEOGRAPH-" cs with
  | some sounds, _ => syllable? sounds
  | _, some ds => ideograph? ds
  | none, none =>
    let capitals := cs.map Char.toUpper
    (((aliases.lookup (String.ofList capitals)).or (selector? capitals)).or (coded? capitals)).or
      (findLine capitals [] lines)

end FormCheck.Text
