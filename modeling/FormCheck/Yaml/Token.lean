/-! # Tokens

What a YAML text is made of. Indentation appears as tokens that open and close collections, and
a key that needs no mark of its own has got one.
-/

namespace FormCheck.Yaml

/-- A token. A directive other than `TAG` keeps its name and a number; a tag keeps its handle, if
it has one, and the rest. -/
inductive Token where
  | streamEnd
  | versionDirective (major : Nat)
  | tagDirective (handle expansion : String)
  | otherDirective
  | documentStart
  | documentEnd
  | blockSequenceStart
  | blockMappingStart
  | blockEnd
  | flowSequenceStart
  | flowSequenceEnd
  | flowMappingStart
  | flowMappingEnd
  | flowEntry
  | blockEntry
  | key
  | value
  | alias (name : String)
  | anchor (name : String)
  | tag (handle : Option String) (suffix : String)
  | scalar (text : String) (plain : Bool)
  deriving DecidableEq, Repr, Inhabited

end FormCheck.Yaml
