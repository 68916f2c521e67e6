import FormCheck.Yaml.Node
import FormCheck.Yaml.Scalar

/-! # Parts of a document

What each node of a document stands for, seen on its own: a scalar has its value, and a collection
has the numbers of its members. The parts are found level by level from the outermost one, so that
of two flaws the one further out is met first. A mapping takes over the entries of the mappings it
merges, before its own; tags other than the standard ones have no value.
-/

namespace FormCheck.Yaml

inductive Part where
  | whole (v : Value)
  | list (items : List Nat)
  | pairs (items : List (Nat × Nat))
  | map (entries : List (Value × Nat))
  | set (keys : List Value)
  deriving Repr, Inhabited

def Part.members : Part → List Nat
  | .whole _ => []
  | .list items => items
  | .pairs items => items.flatMap fun p => [p.1, p.2]
  | .map entries => entries.map (·.2)
  | .set _ => []

/-- How far parts have been found, and the collections whose members are still to be looked at. -/
structure Dissection where
  nodes : Array Node
  parts : Array (Option Part)
  waiting : Array Nat
  deriving Repr, Inhabited

namespace Dissection

abbrev Step := StateT Dissection (Except Flaw)

def fail {α : Type} : Step α :=
  throw .malformed

def node (number : Nat) : Step Node := do
  let d ← get
  pure (d.nodes[number]?.getD (.scalar "" ""))

def part? (number : Nat) : Step (Option Part) := do
  let d ← get
  pure (d.parts[number]?.join)

def setPart (number : Nat) (p : Part) : Step Unit :=
  modify fun d => { d with parts := d.parts.setIfInBounds number (some p) }

/-! ## Merging -/

def entriesOf (number : Nat) : Step (List (Nat × Nat)) := do
  match ← node number with
  | .mapping _ entries => pure entries
  | _ => fail

def setEntries (number : Nat) (entries : List (Nat × Nat)) : Step Unit := do
  let n ← node number
  modify fun d => { d with nodes := d.nodes.setIfInBounds number (.mapping n.tag entries) }

def hasTag (name : String) (number : Nat) : Step Bool := do
  let n ← node number
  pure (n.tag == standardTag name)

def retagged (tag : String) : Node → Node
  | .scalar _ text => .scalar tag text
  | .sequence _ items => .sequence tag items
  | .mapping _ entries => .mapping tag entries

/-- Makes a text of a key that is the mark of the default value. -/
def nameKey (number : Nat) : Step Unit := do
  if ← hasTag "value" number then
    modify fun d =>
      { d with nodes := d.nodes.modify number (retagged (standardTag "str")) }

def takeMerge? : List (Nat × Nat) → Step (Option (Nat × List (Nat × Nat)))
  | [] => pure none
  | e :: rest => do
    if ← hasTag "merge" e.1 then pure (some (e.2, rest))
    else do
      let found ← takeMerge? rest
      pure (found.map fun f => (f.1, e :: f.2))

mutual

def mergeAll : Nat → Nat → List (Nat × Nat) → Step Unit
  | 0, _, _ => fail
  | fuel + 1, number, merged => do
    let entries ← entriesOf number
    match ← takeMerge? entries with
    | some (source, rest) => do
      setEntries number rest
      let more ← mergedBy fuel source
      mergeAll fuel number (merged ++ more)
    | none => do
      entries.forM fun e => nameKey e.1
      setEntries number (merged ++ entries)

/-- The entries that a node under the key of merging gives: of several mappings, later ones come
first. The first number is fuel. -/
def mergedBy : Nat → Nat → Step (List (Nat × Nat))
  | 0, _ => fail
  | fuel + 1, source => do
    match ← node source with
    | .mapping .. => do
      mergeAll fuel source []
      entriesOf source
    | .sequence _ items => do
      let parts ← items.mapM fun item => do
        let _ ← entriesOf item
        mergeAll fuel item []
        entriesOf item
      pure parts.reverse.flatten
    | .scalar .. => fail

end

/-! ## Parts -/

/-- The text of a node where a scalar is asked for: a mapping may give one under the mark of the
default value. The first number is fuel. -/
def scalarText : Nat → Nat → Step String
  | 0, _ => throw .endless
  | fuel + 1, number => do
    match ← node number with
    | .scalar _ text => pure text
    | .mapping _ entries => do
      match ← entries.findM? fun e => hasTag "value" e.1 with
      | some e => scalarText fuel e.2
      | none => fail
    | .sequence .. => fail

def collectionTags : List String :=
  ["seq", "omap", "pairs", "map", "set"].map standardTag

def look (number : Nat) : Step Unit := do
  if (← part? number).isNone then
    let n ← node number
    if isScalarTag n.tag then do
      let d ← get
      let text ← scalarText (d.nodes.size + 1) number
      match n, n.tag == standardTag "timestamp" with
      | .mapping .., true => throw .notAText
      | _, _ => do
        let v ← scalarOf number n.tag text
        setPart number (.whole v)
    else if collectionTags.contains n.tag then do
      setPart number (.list [])
      modify fun d => { d with waiting := d.waiting.push number }
    else fail

def pairOf (number : Nat) : Step (Nat × Nat) := do
  match ← node number with
  | .mapping _ [(key, value)] => do
    look key
    look value
    pure (key, value)
  | _ => fail

def keyOf (number : Nat) : Step Value := do
  look number
  match ← part? number with
  | some (.whole v) => pure v
  | _ => fail

def entryCount (nodes : Array Node) : Nat :=
  nodes.foldl (fun count n =>
    match n with
    | .mapping _ entries => count + entries.length
    | _ => count) 0

def mapEntries (number : Nat) : Step (List (Value × Nat)) := do
  let d ← get
  mergeAll (2 * entryCount d.nodes + 2) number []
  let entries ← entriesOf number
  entries.mapM fun e => do
    let key ← keyOf e.1
    look e.2
    pure (key, e.2)

def collection (n : Node) (number : Nat) : Step Part := do
  match n with
  | .sequence tag items =>
    if tag == standardTag "seq" then do
      items.forM look
      pure (.list items)
    else if tag == standardTag "omap" || tag == standardTag "pairs" then do
      let pairs ← items.mapM pairOf
      pure (.pairs pairs)
    else fail
  | .mapping tag _ =>
    if tag == standardTag "map" then do
      let entries ← mapEntries number
      pure (.map entries)
    else if tag == standardTag "set" then do
      let entries ← mapEntries number
      pure (.set (entries.map (·.1)))
    else fail
  | .scalar .. => fail

def lookInside : Nat → Nat → Step Unit
  | 0, _ => pure ()
  | fuel + 1, place => do
    let d ← get
    match d.waiting[place]? with
    | none => pure ()
    | some number => do
      let n ← node number
      let p ← collection n number
      setPart number p
      lookInside fuel (place + 1)

end Dissection

def Document.parts? (d : Document) : Except Flaw (Array (Option Part)) := do
  let start : Dissection :=
    { nodes := d.nodes, parts := Array.replicate d.nodes.size none, waiting := #[] }
  let work : Dissection.Step Unit := do
    Dissection.look d.root
    Dissection.lookInside (d.nodes.size + 1) 0
  let (_, found) ← work.run start
  pure found.parts

end FormCheck.Yaml
