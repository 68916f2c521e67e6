import FormCheck.Text.Quoted

/-! # Flaws of pattern texts

What can be wrong with the text of a pattern, and the sentence that says so: the reason, the
position it concerns and, in a text of several lines, the line and column of that position.
-/

namespace FormCheck.Pattern

inductive Reason where
  | trailingBackslash
  | incompleteEscape (escape : String)
  | badEscape (escape : String)
  | octalTooLarge (escape : String)
  | missingBrace
  | missing (what : String)
  | unterminatedName (terminator : Char)
  | undefinedCharacterName (name : String)
  | openGroup
  | lookbehindGroup
  | badGroupReference (index : Nat)
  | unterminatedSet
  | badRange (low high : String)
  | repeatBounds
  | nothingToRepeat
  | multipleRepeat
  | unexpectedEnd
  | badGroupName (name : String)
  | unknownGroupName (name : String)
  | groupRedefined (name : String) (index previous : Nat)
  | unknownExtension (extension : String)
  | unterminatedComment
  | unterminatedGroup
  | badGroupNumber
  | tooManyBranches
  | globalModesInside
  | localeMode
  | modesIncompatible
  | modesUnclosed
  | unknownMode
  | globalModeOn
  | globalModeOff
  | missingMode
  | typeModeOff
  | missingColon
  | modeOnAndOff
  | unbalancedParenthesis
  | unsupportedInTemplate (operator : String)
  | lookbehindWidth
  deriving DecidableEq, Repr, Inhabited

def Reason.text : Reason → String
  | .trailingBackslash => "bad escape (end of pattern)"
  | .incompleteEscape escape => "incomplete escape " ++ escape
  | .badEscape escape => "bad escape " ++ escape
  | .octalTooLarge escape => "octal escape value " ++ escape ++ " outside of range 0-0o377"
  | .missingBrace => "missing \x7b"
  | .missing what => "missing " ++ what
  | .unterminatedName terminator =>
    "missing " ++ String.singleton terminator ++ ", unterminated name"
  | .undefinedCharacterName name => "undefined character name " ++ Text.quoted name
  | .openGroup => "cannot refer to an open group"
  | .lookbehindGroup => "cannot refer to group defined in the same lookbehind subpattern"
  | .badGroupReference index => s!"invalid group reference {index}"
  | .unterminatedSet => "unterminated character set"
  | .badRange low high => "bad character range " ++ low ++ "-" ++ high
  | .repeatBounds => "min repeat greater than max repeat"
  | .nothingToRepeat => "nothing to repeat"
  | .multipleRepeat => "multiple repeat"
  | .unexpectedEnd => "unexpected end of pattern"
  | .badGroupName name => "bad character in group name " ++ Text.quoted name
  | .unknownGroupName name => "unknown group name " ++ Text.quoted name
  | .groupRedefined name index previous =>
    "redefinition of group name " ++ Text.quoted name ++ s!" as group {index}; was group {previous}"
  | .unknownExtension extension => "unknown extension ?" ++ extension
  | .unterminatedComment => "missing ), unterminated comment"
  | .unterminatedGroup => "missing ), unterminated subpattern"
  | .badGroupNumber => "bad group number"
  | .tooManyBranches => "conditional backref with more than two branches"
  | .globalModesInside => "global flags not at the start of the expression"
  | .localeMode => "bad inline flags: cannot use 'L' flag with a str pattern"
  | .modesIncompatible => "bad inline flags: flags 'a', 'u' and 'L' are incompatible"
  | .modesUnclosed => "missing -, : or )"
  | .unknownMode => "unknown flag"
  | .globalModeOn => "bad inline flags: cannot turn on global flag"
  | .globalModeOff => "bad inline flags: cannot turn off global flag"
  | .missingMode => "missing flag"
  | .typeModeOff => "bad inline flags: cannot turn off flags 'a', 'u' and 'L'"
  | .missingColon => "missing :"
  | .modeOnAndOff => "bad inline flags: flag turned on and off"
  | .unbalancedParenthesis => "unbalanced parenthesis"
  | .unsupportedInTemplate operator => "internal: unsupported template operator " ++ operator
  | .lookbehindWidth => "look-behind requires fixed-width pattern"

/-- Why a pattern text is refused: a flaw with its position, a count or a code beyond all
limits, a count of too many digits, or global modes that exclude one another. -/
inductive Flaw where
  | reason (r : Reason) (position : Option Nat)
  | numberTooLarge
  | integerTooLong (digits : Nat)
  | conflictingModes
  deriving DecidableEq, Repr, Inhabited

def lineAndColumn (cs : List Char) (position : Nat) : Nat × Nat :=
  let before := cs.take position
  (before.count '\n' + 1, (before.reverse.takeWhile (· ≠ '\n')).length + 1)

def Reason.textAt (r : Reason) (pattern : List Char) : Option Nat → String
  | none => r.text
  | some position =>
    let (line, column) := lineAndColumn pattern position
    r.text ++ s!" at position {position}" ++
      (if pattern.contains '\n' then s!" (line {line}, column {column})" else "")

end FormCheck.Pattern
