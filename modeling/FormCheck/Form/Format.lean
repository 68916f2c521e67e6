import FormCheck.Pattern.Search
import FormCheck.Value

/-! # Fixed formats

Electronic mail addresses and telephone numbers of the North American plan, each given by a pattern
that takes the whole text, also its last line break.
-/

namespace FormCheck.Format

open Pattern

def oneOf (members : List Member) : Node :=
  .one { negated := false, members, folding := .exact, ascii := false }

def char (c : Char) : Node :=
  oneOf [.code c.toNat]

def alphanumerics : List Member :=
  [.range 97 122, .range 65 90, .range 48 57]

def possibly (n : Node) : Node :=
  .times .greedy 0 (some 1) n

def repeated (least most : Nat) (n : Node) : Node :=
  .times .greedy least (some most) n

def atLeastOne (n : Node) : Node :=
  .times .greedy 1 none n

/-- The pattern of a mail address: a mailbox, `@`, a label, a point and the rest of the domain. -/
def emailPattern : Node :=
  .sequence
    [.anchor .start,
     atLeastOne (oneOf (alphanumerics ++ [.code 95, .code 46, .code 43, .code 45])),
     char '@',
     atLeastOne (oneOf (alphanumerics ++ [.code 45])),
     char '.',
     atLeastOne (oneOf (alphanumerics ++ [.code 45, .code 46])),
     .anchor .finalEnd]

def digit : Node :=
  oneOf [.category .digit false]

def separator : Node :=
  possibly (oneOf [.category .blank false, .code 46, .code 45])

/-- The pattern of a telephone number: a country code, the area code in parentheses or not, the
exchange and the subscriber number. -/
def phonePattern : Node :=
  .sequence
    [.anchor .start,
     possibly (.group 1 (.sequence
       [char '+', repeated 1 2 digit, oneOf [.category .blank false]])),
     possibly (char '('),
     repeated 3 3 digit,
     possibly (char ')'),
     separator,
     repeated 3 3 digit,
     separator,
     repeated 4 4 digit,
     .anchor .finalEnd]

def isEmail : Value → Bool
  | .text s => emailPattern.matches s
  | _ => false

def isUsPhone : Value → Bool
  | .text s => phonePattern.matches s
  | _ => false

end FormCheck.Format
