/-! # Listings

Tables of characters are written as lines of text. Here is how a line is taken apart: into entries
at semicolons, entries into words at blanks, and numbers as hexadecimal digits in capital letters.
-/

namespace FormCheck.Text

def splitAt (separator : Char) : List Char → List (List Char)
  | [] => [[]]
  | c :: rest =>
    if c == separator then [] :: splitAt separator rest
    else match splitAt separator rest with
      | [] => [[c]]
      | piece :: more => (c :: piece) :: more

def capitalHex? (c : Char) : Option Nat :=
  if '0' ≤ c && c ≤ '9' then some (c.toNat - 48)
  else if 'A' ≤ c && c ≤ 'F' then some (c.toNat - 55)
  else none

def hexNumber? (cs : List Char) : Option Nat := do
  let ds ← cs.mapM capitalHex?
  return ds.foldl (fun n d => 16 * n + d) 0

structure ListingEntry where
  first : Nat
  last : Nat
  numbers : List Nat
  deriving DecidableEq, Repr, Inhabited

/-- The entry that a text writes, as in `41-5A 61`. -/
def ListingEntry.read? (cs : List Char) : Option ListingEntry := do
  match splitAt ' ' cs with
  | codes :: words =>
    let numbers ← words.mapM hexNumber?
    match splitAt '-' codes with
    | [one] => do
      let code ← hexNumber? one
      pure { first := code, last := code, numbers }
    | [first, last] => do
      let first ← hexNumber? first
      let last ← hexNumber? last
      pure { first, last, numbers }
    | _ => none
  | [] => none

def listingEntries (lines : List String) : List ListingEntry :=
  lines.flatMap fun line => (splitAt ';' line.toList).filterMap ListingEntry.read?

def listed? (lines : List String) (code : Nat) : Option ListingEntry :=
  lines.findSome? fun line =>
    (splitAt ';' line.toList).findSome? fun cs =>
      (ListingEntry.read? cs).filter fun e => e.first ≤ code && code ≤ e.last

end FormCheck.Text
