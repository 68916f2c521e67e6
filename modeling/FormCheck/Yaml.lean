import FormCheck.Yaml.Knot
import FormCheck.Yaml.Node.Reading

/-! # Reading YAML

The value of a YAML text: its nodes are read, then the part that each of them stands for is found,
and last the parts are tied together.
-/

namespace FormCheck.Yaml

def Document.value (d : Document) : Except Flaw Value := do
  let parts ← d.parts?
  pure (tiedValue parts d.root)

/-- The value of a text that holds at most one document, in which collections may nest as deeply as
the number says; an empty text has the null value. -/
def read (depth : Nat) (cs : List Char) : Except Flaw Value := do
  match ← Document.ofText? depth cs with
  | none => pure .null
  | some d => d.value

end FormCheck.Yaml
