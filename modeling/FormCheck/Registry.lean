import FormCheck.Failure
import FormCheck.Pattern.Reader

/-! # The pattern registry of a form

A registry keeps the named patterns of one form in the order in which they were first declared. A
pattern that belongs to a single field is kept under an identifier made from the field's name, the
mark `#` and a count, which no declared identifier can be.
-/

namespace FormCheck

structure Registry where
  scope : Value
  entries : List Entry
  localCounts : List (String × Nat)
  frozen : Bool
  deriving Repr, Inhabited

namespace Registry

/-- Work on a registry. What it did before it failed stays done. -/
abbrev Action := EStateM Failure Registry

def new (scope : Value) : Registry :=
  { scope, entries := [], localCounts := [], frozen := false }

def find? (r : Registry) (identifier : String) : Option Entry :=
  r.entries.find? fun e => e.identifier == identifier

def contains (r : Registry) (identifier : String) : Bool :=
  (r.find? identifier).isSome

def identifiers (r : Registry) : List String :=
  r.entries.map (·.identifier)

def isLocal (identifier : String) : Bool :=
  identifier.toList.contains '#'

def declared (r : Registry) : List Entry :=
  r.entries.filter fun e => !isLocal e.identifier

def localCount (r : Registry) (field : String) : Nat :=
  (r.localCounts.lookup field).getD 0

/-- A registry with an entry; one of the same identifier is replaced in its place. -/
def insert (r : Registry) (e : Entry) : Registry :=
  { r with
    entries :=
      if r.contains e.identifier then
        r.entries.map fun old => if old.identifier == e.identifier then e else old
      else r.entries ++ [e] }

def countLocal (r : Registry) (field : String) : Registry :=
  { r with localCounts := (field, r.localCount field + 1) :: r.localCounts.filter (·.1 != field) }

def freeze (r : Registry) : Registry :=
  { r with frozen := true }

def localIdentifier (field : String) (index : Nat) : String :=
  s!"{field}#regex{index}"

def compile (scope : Value) (identifier pattern : String) (subject : Option String) :
    Except Failure Entry :=
  match Pattern.read pattern with
  | .ok node => .ok { identifier, pattern, node }
  | .error (.reason r position) =>
    let reason := r.textAt pattern.toList position
    .error (Failure.ofError (.inForm scope (.invalidPattern identifier pattern reason subject)))
  | .error .numberTooLarge => .error (.fault .numberTooLarge)
  | .error (.integerTooLong n) => .error (.fault (.integerTooLong (some n)))
  | .error .conflictingModes => .error (.fault .conflictingModes)

def checkOpen : Action Unit := do
  let r ← get
  if r.frozen then throw (.fault (.frozenRegistry r.scope)) else pure ()

def register (identifier pattern : String) (subject : Option String) : Action Entry := do
  let r ← get
  match compile r.scope identifier pattern subject with
  | .error f => throw f
  | .ok e => do
    set (r.insert e)
    pure e

def declare (identifier pattern : String) : Action Entry := do
  checkOpen
  let r ← get
  if r.contains identifier then
    throw (Failure.ofError
      (.new (.duplicateIdentifier identifier) r.scope .null (.text "validate_regex")))
  else register identifier pattern none

/-- Declares a pattern of a single field. The field's count grows even if the pattern is refused. -/
def declareLocal (field pattern : String) : Action Entry := do
  checkOpen
  let r ← get
  set (r.countLocal field)
  register (localIdentifier field (r.localCount field)) pattern
    (some s!"regex on field `{field}`")

def resolve (r : Registry) (identifier : String) : Except Failure Entry :=
  match r.find? identifier with
  | some e => .ok e
  | none => .error (Failure.ofError (.inForm r.scope (.unknownIdentifier identifier)))

def text (r : Registry) : String :=
  "PatternRegistry(scope=" ++ r.scope.literal ++ ", identifiers=" ++
    (Value.list (r.identifiers.map .text)).literal ++ ")"

end Registry

end FormCheck
