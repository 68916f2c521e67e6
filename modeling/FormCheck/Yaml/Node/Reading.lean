import FormCheck.Yaml.Plain
import FormCheck.Yaml.Token.Reading

/-! # Reading nodes

The nodes of a text that holds one document. A node may be named by an anchor; from then on, also
inside the node itself, an alias stands for it.
-/

namespace FormCheck.Yaml

/-- How far tokens have been read into nodes, and how many collections may still be opened inside
one another. An anchor names a node by its number. -/
structure Assembly where
  lexer : Lexer
  nodes : Array Node
  anchors : List (String × Nat)
  handles : List (String × String)
  depth : Nat
  deriving Inhabited

namespace Assembly

abbrev Step := StateT Assembly (Except Flaw)

def fail {α : Type} : Step α :=
  throw .malformed

def peek : Step Token := do
  let lexer ← modifyGet fun a => (a.lexer, { a with lexer := default })
  let (t, lexer) ← Lexer.peek.run lexer
  modify fun a => { a with lexer }
  pure t

def drop : Step Unit :=
  modify fun a => { a with lexer := { a.lexer with taken := a.lexer.taken + 1 } }

def expect (t : Token) : Step Unit := do
  if (← peek) == t then drop else fail

def add (n : Node) : Step Nat := do
  let a ← get
  set { a with nodes := a.nodes.push n }
  pure a.nodes.size

def replace (number : Nat) (n : Node) : Step Unit :=
  modify fun a => { a with nodes := a.nodes.setIfInBounds number n }

def empty : Step Nat :=
  add (.scalar (plainTag "") "")

def anchor? : Step (Option String) := do
  match ← peek with
  | .anchor name => do
    drop
    pure (some name)
  | _ => pure none

def tag? : Step (Option (Option String × String)) := do
  match ← peek with
  | .tag handle suffix => do
    drop
    pure (some (handle, suffix))
  | _ => pure none

def fullTag : Option (Option String × String) → Step (Option String)
  | none => pure none
  | some (none, suffix) => pure (some suffix)
  | some (some handle, suffix) => do
    let a ← get
    match a.handles.lookup handle with
    | some expansion => pure (some (expansion ++ suffix))
    | none => fail

def properties : Step (Option String × Option String) := do
  let before ← anchor?
  let tag ← tag?
  let after ← if before.isNone && tag.isSome then anchor? else pure none
  let tag ← fullTag tag
  pure (before.orElse fun _ => after, tag)

/-- The tag of a collection for which none was written, or only the mark that it is left open. -/
def tagOr (tag : Option String) (default : String) : String :=
  match tag with
  | none => default
  | some "!" => default
  | some tag => tag

def addNamed (anchor : Option String) (n : Node) : Step Nat := do
  let number ← add n
  match anchor with
  | none => pure number
  | some name => do
    modify fun a => { a with anchors := (name, number) :: a.anchors }
    pure number

def named (name : String) : Step Nat := do
  let a ← get
  match a.anchors.lookup name with
  | some number => pure number
  | none => fail

def checkAnchor (anchor : Option String) : Step Unit := do
  let a ← get
  if anchor.any fun name => (a.anchors.lookup name).isSome then fail

def nested {α : Type} (anchor : Option String) (collection : List α → Node)
    (members : Step (List α)) : Step Nat := do
  let number ← addNamed anchor (collection [])
  match (← get).depth with
  | 0 => throw .tooDeep
  | depth + 1 => do
    modify fun a => { a with depth }
    let read ← members
    modify fun a => { a with depth := depth + 1 }
    replace number (collection read)
    pure number

def scalarTag (tag : Option String) (text : String) (plain : Bool) : String :=
  match tag with
  | some "!" => plainTag text
  | some tag => tag
  | none => if plain then plainTag text else standardTag "str"

mutual

/-- The node at a place. In block context block collections may stand there, and where a mapping
allows it, entries at its own indentation. The number is fuel. -/
def node (block indentless : Bool) : Nat → Step Nat
  | 0 => fail
  | fuel + 1 => do
    match ← peek with
    | .alias name => do
      drop
      named name
    | _ => do
      let (anchor, tag) ← properties
      content block indentless anchor tag fuel

def content (block indentless : Bool) (anchor tag : Option String) : Nat → Step Nat
  | 0 => fail
  | fuel + 1 => do
    let t ← peek
    checkAnchor anchor
    let sequence := Node.sequence (tagOr tag (standardTag "seq"))
    let mapping := Node.mapping (tagOr tag (standardTag "map"))
    match t with
    | .scalar text plain => do
      drop
      addNamed anchor (.scalar (scalarTag tag text plain) text)
    | .flowSequenceStart => do
      drop
      nested anchor sequence (flowItems true [] fuel)
    | .flowMappingStart => do
      drop
      nested anchor mapping (flowEntries true [] fuel)
    | t =>
      if t == .blockEntry && indentless then
        nested anchor sequence (blockItems false [] fuel)
      else if t == .blockSequenceStart && block then do
        drop
        nested anchor sequence (blockItems true [] fuel)
      else if t == .blockMappingStart && block then do
        drop
        nested anchor mapping (blockEntries [] fuel)
      else if anchor.isSome || tag.isSome then
        addNamed anchor (.scalar (scalarTag tag "" true) "")
      else fail

def nodeUnless (stops : List Token) (block indentless : Bool) : Nat → Step Nat
  | 0 => fail
  | fuel + 1 => do
    if stops.contains (← peek) then empty else node block indentless fuel

def blockItems (indented : Bool) (read : List Nat) : Nat → Step (List Nat)
  | 0 => fail
  | fuel + 1 => do
    if (← peek) == .blockEntry then do
      drop
      let stops := if indented then [Token.blockEntry, .blockEnd]
        else [Token.blockEntry, .key, .value, .blockEnd]
      let item ← nodeUnless stops true false fuel
      blockItems indented (item :: read) fuel
    else do
      if indented then expect .blockEnd
      pure read.reverse

def blockEntries (read : List (Nat × Nat)) : Nat → Step (List (Nat × Nat))
  | 0 => fail
  | fuel + 1 => do
    let t ← peek
    if t == .blockEnd then do
      drop
      pure read.reverse
    else if t == .key then do
      drop
      let key ← nodeUnless [.key, .value, .blockEnd] true true fuel
      let value ← blockValue fuel
      blockEntries ((key, value) :: read) fuel
    else fail

def blockValue : Nat → Step Nat
  | 0 => fail
  | fuel + 1 => do
    if (← peek) == .value then do
      drop
      nodeUnless [.key, .value, .blockEnd] true true fuel
    else empty

def flowValue (finish : Token) : Nat → Step Nat
  | 0 => fail
  | fuel + 1 => do
    if (← peek) == .value then do
      drop
      nodeUnless [.flowEntry, finish] false false fuel
    else empty

/-- The items of a flow sequence; an entry of a mapping counts as a mapping of its own. -/
def flowItems (first : Bool) (read : List Nat) : Nat → Step (List Nat)
  | 0 => fail
  | fuel + 1 => do
    if (← peek) == .flowSequenceEnd then do
      drop
      pure read.reverse
    else do
      if !first then expect .flowEntry
      let t ← peek
      if t == .key then do
        drop
        let number ← nested none (.mapping (standardTag "map")) do
          let key ← nodeUnless [.value, .flowEntry, .flowSequenceEnd] false false fuel
          let value ← flowValue .flowSequenceEnd fuel
          pure [(key, value)]
        flowItems false (number :: read) fuel
      else if t == .flowSequenceEnd then do
        drop
        pure read.reverse
      else do
        let item ← node false false fuel
        flowItems false (item :: read) fuel

/-- The entries of a flow mapping; a node that is no key has an empty value. -/
def flowEntries (first : Bool) (read : List (Nat × Nat)) : Nat → Step (List (Nat × Nat))
  | 0 => fail
  | fuel + 1 => do
    if (← peek) == .flowMappingEnd then do
      drop
      pure read.reverse
    else do
      if !first then expect .flowEntry
      let t ← peek
      if t == .key then do
        drop
        let key ← nodeUnless [.value, .flowEntry, .flowMappingEnd] false false fuel
        let value ← flowValue .flowMappingEnd fuel
        flowEntries false ((key, value) :: read) fuel
      else if t == .flowMappingEnd then do
        drop
        pure read.reverse
      else do
        let key ← node false false fuel
        let value ← empty
        flowEntries false ((key, value) :: read) fuel

end

/-! ## Documents -/

def addHandle (handles : List (String × String)) (handle expansion : String) :
    List (String × String) :=
  if (handles.lookup handle).isSome then handles else (handle, expansion) :: handles

def allHandles (handles : List (String × String)) : List (String × String) :=
  addHandle (addHandle handles "!" "!") "!!" (standardTag "")

def directives (versioned : Bool) (handles : List (String × String)) : Nat → Step Unit
  | 0 => fail
  | fuel + 1 => do
    match ← peek with
    | .versionDirective major => do
      drop
      if versioned || major != 1 then fail
      directives true handles fuel
    | .tagDirective handle expansion => do
      drop
      if (handles.lookup handle).isSome then fail
      directives versioned ((handle, expansion) :: handles) fuel
    | .otherDirective => do
      drop
      directives versioned handles fuel
    | _ => modify fun a => { a with handles := allHandles handles }

def dropEnds : Nat → Step Unit
  | 0 => pure ()
  | fuel + 1 => do
    if (← peek) == .documentEnd then do
      drop
      dropEnds fuel

def startsExplicitly : Token → Bool
  | .documentStart => true
  | .versionDirective _ => true
  | .tagDirective .. => true
  | .otherDirective => true
  | _ => false

def endsContent (t : Token) : Bool :=
  startsExplicitly t || t == .documentEnd || t == .streamEnd

def document (fuel : Nat) : Step (Option Nat) := do
  let t ← peek
  if t == .streamEnd then pure none
  else do
    let number ← if startsExplicitly t then do
        directives false [] fuel
        expect .documentStart
        if endsContent (← peek) then empty else node true false fuel
      else do
        modify fun a => { a with handles := allHandles [] }
        node true false fuel
    dropEnds fuel
    if (← peek) == .streamEnd then pure (some number)
    else do
      directives false [] fuel
      expect .documentStart
      fail

end Assembly

def Document.ofText? (depth : Nat) (cs : List Char) : Except Flaw (Option Document) := do
  let lexer ← Lexer.ofText cs
  let start : Assembly := { lexer, nodes := #[], anchors := [], handles := [], depth }
  let (root, a) ← (Assembly.document (16 * cs.length + 16)).run start
  pure (root.map fun root => { nodes := a.nodes, root })

end FormCheck.Yaml
