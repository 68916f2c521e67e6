import FormCheck.Text.Listing
import FormCheck.Text.Normal.Composite
import FormCheck.Text.Normal.Rank
import FormCheck.Text.Normal.Replacement

/-! # Normal form of identifiers

Two spellings of an identifier mean the same if their normal forms are equal. The normal form takes
every character apart and replaces it by its common form, puts marks in the order of their ranks,
and composes letters with their marks again.
-/

namespace FormCheck.Text

namespace Normal

/-! ## Hangul syllables -/

def firstSyllable : Nat := 0xac00

def sounds (code : Nat) : List Nat :=
  let index := code - firstSyllable
  let tail := index % 28
  [0x1100 + index / 588, 0x1161 + index % 588 / 28] ++ (if tail = 0 then [] else [0x11a7 + tail])

def isSyllable (code : Nat) : Bool :=
  firstSyllable ≤ code && code < firstSyllable + 11172

def syllable? (a b : Nat) : Option Nat :=
  if 0x1100 ≤ a && a < 0x1113 && 0x1161 ≤ b && b < 0x1176 then
    some (firstSyllable + ((a - 0x1100) * 21 + (b - 0x1161)) * 28)
  else if isSyllable a && (a - firstSyllable) % 28 = 0 && 0x11a7 < b && b < 0x11c3 then
    some (a + (b - 0x11a7))
  else none

/-! ## Taking apart and composing -/

def parts? (code : Nat) : Option (List Nat) :=
  (listed? composites code).map (·.numbers)

def apart (code : Nat) : List Nat :=
  if code < 0x80 then [code]
  else if isSyllable code then sounds code
  else match parts? code with
    | some parts => parts
    | none =>
      match listed? replacements code with
      | some ⟨first, _, [n]⟩ => [n + (code - first)]
      | some e => e.numbers
      | none => [code]

def rank (code : Nat) : Nat :=
  if code < 0x300 then 0 else ((listed? ranks code).bind (·.numbers.head?)).getD 0

/-- Puts a mark before the marks of higher rank at the end of a text, which is given from its
end. -/
def insertMark (mark : Nat × Nat) : List (Nat × Nat) → List (Nat × Nat)
  | [] => [mark]
  | last :: before =>
    if mark.2 ≠ 0 && mark.2 < last.2 then last :: insertMark mark before else mark :: last :: before

def arranged (codes : List Nat) : List (Nat × Nat) :=
  (codes.foldl (fun placed code => insertMark (code, rank code) placed) []).reverse

def composed? (letter mark : Nat) : Option Nat :=
  (syllable? letter mark).orElse fun _ =>
    let parts := (parts? letter).getD [letter] ++ [mark]
    if mark < 0x300 then none
    else (listingEntries composites).findSome? fun e =>
      if e.numbers = parts then some e.first else none

/-- Composes a letter with the marks after it, as far as it goes. The marks that it passed over are
kept, the last one first; `none` as a letter stands for none yet. -/
def compose : Option Nat → List Nat → Option Nat → List (Nat × Nat) → List Nat
  | letter, passed, _, [] => letter.toList ++ passed.reverse
  | none, passed, _, (code, rank) :: rest =>
    if rank = 0 then passed.reverse ++ compose (some code) [] none rest
    else compose none (code :: passed) none rest
  | some letter, passed, last, (code, rank) :: rest =>
    match if last.any (rank ≤ ·) then none else composed? letter code with
    | some whole => compose (some whole) passed last rest
    | none =>
      if rank = 0 then letter :: passed.reverse ++ compose (some code) [] none rest
      else compose (some letter) (code :: passed) (some rank) rest

end Normal

def normalForm (s : String) : String :=
  if s.toList.all fun c => c.toNat < 0x80 then s
  else
    let codes := s.toList.flatMap fun c => Normal.apart c.toNat
    String.ofList ((Normal.compose none [] none (Normal.arranged codes)).map Char.ofNat)

end FormCheck.Text
