import FormCheck.Yaml.Token

/-! # Nodes

The structure of a YAML document: tagged scalars, sequences and mappings. Nodes are numbered, and
collections hold the numbers of their members, since by aliases a node can be a member of several
collections and even of itself.
-/

namespace FormCheck.Yaml

inductive Node where
  | scalar (tag text : String)
  | sequence (tag : String) (items : List Nat)
  | mapping (tag : String) (entries : List (Nat × Nat))
  deriving DecidableEq, Repr, Inhabited

def Node.tag : Node → String
  | .scalar tag _ => tag
  | .sequence tag _ => tag
  | .mapping tag _ => tag

def standardTag (name : String) : String :=
  "tag:yaml.org,2002:" ++ name

/-- A document: its nodes by number, and the number of the outermost one. -/
structure Document where
  nodes : Array Node
  root : Nat
  deriving Repr, Inhabited

end FormCheck.Yaml
