import FormCheck.Yaml.Part

/-! # Tying parts

The value of a document from its parts. A part of which no path leads back to itself is a value of
its own; the other ones are the parts of a knot.
-/

namespace FormCheck.Yaml

/-- What is known of a part: nothing, that its members are being looked at, its value, or that it
leads to a part that contains itself. -/
inductive Mark where
  | unseen
  | entered
  | value (v : Value)
  | entangled
  deriving Repr, Inhabited

def Mark.value? : Mark → Option Value
  | .value v => some v
  | _ => none

def Part.value (member : Nat → Value) : Part → Value
  | .whole v => v
  | .list items => .list (items.map member)
  | .pairs items => .list (items.map fun p => .tuple [member p.1, member p.2])
  | .map entries => Value.ofPairs (entries.map fun e => (e.1, member e.2))
  | .set keys =>
    match Value.ofPairs (keys.map fun k => (k, .null)) with
    | .map entries => .set (entries.map (·.1))
    | v => v

def markAt (marks : Array Mark) (number : Nat) : Mark :=
  marks[number]?.getD .unseen

def Part.mark (p : Part) (marks : Array Mark) : Mark :=
  if p.members.all fun m => (markAt marks m).value?.isSome then
    .value (p.value fun m => (markAt marks m).value?.getD .null)
  else .entangled

def markFrom (parts : Array (Option Part)) : Nat → Nat → StateM (Array Mark) Unit
  | 0, _ => pure ()
  | fuel + 1, number => do
    match markAt (← get) number, parts[number]?.join with
    | .unseen, some p => do
      modify fun marks => marks.setIfInBounds number .entered
      p.members.forM (markFrom parts fuel)
      modify fun marks => marks.setIfInBounds number (p.mark marks)
    | _, _ => pure ()

def entangled (marks : Array Mark) : List Nat :=
  (List.range marks.size).filter fun number =>
    match markAt marks number with
    | .entangled => true
    | _ => false

def tiedValue (parts : Array (Option Part)) (number : Nat) : Value :=
  let unseen := Array.replicate parts.size Mark.unseen
  let (_, marks) := (markFrom parts (parts.size + 1) number).run unseen
  match markAt marks number with
  | .value v => v
  | _ =>
    let numbers := entangled marks
    let member := fun m => (markAt marks m).value?.getD (.part (numbers.idxOf m))
    let values := numbers.map fun m => ((parts[m]?.join).map (Part.value member)).getD .null
    .knot values numbers (numbers.idxOf number)

end FormCheck.Yaml
