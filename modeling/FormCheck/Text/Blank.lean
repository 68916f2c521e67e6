import FormCheck.Text.CodePoints

/-! # Blanks

The characters with the Unicode property `White_Space` together with the four information
separators, and the removal of blanks at both ends of a text.
-/

namespace FormCheck.Text

def blanks : CodePoints := ⟨[
    9, 14, 28, 33, 133, 134, 160, 161, 5760, 5761, 8192, 8203, 8232, 8234, 8239, 8240, 8287, 8288,
    12288, 12289]⟩

def stripList (cs : List Char) : List Char :=
  ((cs.dropWhile blanks.contains).reverse.dropWhile blanks.contains).reverse

/-- Whether a character may stand around a number: the blanks apart from the separators of
information. -/
def isSpace (c : Char) : Bool :=
  blanks.contains c && !(0x1c ≤ c.toNat && c.toNat ≤ 0x1f)

def trimList (cs : List Char) : List Char :=
  ((cs.dropWhile isSpace).reverse.dropWhile isSpace).reverse

end FormCheck.Text
