import FormCheck.Calendar
import FormCheck.Number.Order

/-! # Dynamic values

The values that declarations, documents and instances are made of. A mapping lists its entries in
order of first insertion under keys that are pairwise different; an object is a bundle of named
attributes. A collection that contains itself is a knot: a list of collections that refer to one
another by their numbers, a mark for each, and the number of the one that is meant.

Values are equal as their contents are. Only what is no number is not equal to itself, and a
comparison of knots may come back to where it started. Members of collections count as equal
without a comparison where they are identical, which shows by their marks.
-/

namespace FormCheck

/-- A value of a declaration, a document or an instance. -/
inductive Value where
  | null
  | bool (b : Bool)
  | int (i : Int)
  | float (d : Number.Double)
  | decimal (d : Number.Decimal)
  | text (s : String)
  | bytes (data : List UInt8)
  | date (d : Date)
  | moment (m : Moment)
  | list (items : List Value)
  | tuple (items : List Value)
  | set (items : List Value)
  | map (entries : List (Value × Value))
  | object (attributes : List (String × Value))
  | knot (parts : List Value) (marks : List Nat) (index : Nat)
  | part (index : Nat)
  deriving Repr, Inhabited

namespace Value

/-- The number a value stands for; truth values count as one and zero. -/
def number? : Value → Option Number.Numeral
  | .bool b => some (.int (if b then 1 else 0))
  | .int i => some (.int i)
  | .float d => some (.double d)
  | .decimal d => some (.decimal d)
  | _ => none

def truthy : Value → Bool
  | .null => false
  | .bool b => b
  | .int i => i != 0
  | .float d => !d.isZero
  | .decimal d => !d.isZero
  | .text s => !s.isEmpty
  | .bytes data => !data.isEmpty
  | .list items => !items.isEmpty
  | .tuple items => !items.isEmpty
  | .set items => !items.isEmpty
  | .map entries => !entries.isEmpty
  | .date _ => true
  | .moment _ => true
  | .object _ => true
  | .knot .. => true
  | .part _ => true

def isNull : Value → Bool
  | .null => true
  | _ => false

def text? : Value → Option String
  | .text s => some s
  | _ => none

def ofText? : Option String → Value
  | some s => .text s
  | none => .null

/-- A value of a knot: a number stands for the collection it refers to. -/
def tie (parts : List Value) (marks : List Nat) : Value → Value
  | .part index => .knot parts marks index
  | v => v

/-- A member of a collection of a knot, which may be a tuple with values of the knot. -/
def tied (parts : List Value) (marks : List Nat) : Value → Value
  | .tuple items => .tuple (items.map (tie parts marks))
  | v => tie parts marks v

/-- A value with its outermost collection at hand, also where it contains itself. -/
def opened : Value → Value
  | .knot parts marks index =>
    match parts[index]? with
    | some (.list items) => .list (items.map (tied parts marks))
    | some (.map entries) => .map (entries.map fun e => (e.1, tied parts marks e.2))
    | _ => .list []
  | v => v

def isKnot : Value → Bool
  | .knot .. => true
  | _ => false

def isMap (v : Value) : Bool :=
  match v.opened with
  | .map _ => true
  | _ => false

mutual

def hashable : Value → Bool
  | .list _ => false
  | .set _ => false
  | .map _ => false
  | .object _ => false
  | .knot .. => false
  | .part _ => false
  | .decimal d => !d.isSignalling
  | .tuple items => allHashable items
  | _ => true

def allHashable : List Value → Bool
  | [] => true
  | v :: vs => hashable v && allHashable vs

end

mutual

/-- Whether every integer of a value has a text. -/
def isWritable : Value → Bool
  | .int i => Number.isWritable i
  | .list items => allWritable items
  | .tuple items => allWritable items
  | .set items => allWritable items
  | .map entries => entriesWritable entries
  | .object attributes => attributesWritable attributes
  | .knot parts _ _ => allWritable parts
  | _ => true

def allWritable : List Value → Bool
  | [] => true
  | v :: vs => isWritable v && allWritable vs

def entriesWritable : List (Value × Value) → Bool
  | [] => true
  | (k, v) :: rest => isWritable k && isWritable v && entriesWritable rest

def attributesWritable : List (String × Value) → Bool
  | [] => true
  | (_, v) :: rest => isWritable v && attributesWritable rest

end

/-! ## Equality -/

/-- Whether two values are identical, where that does not show by their contents. -/
def identical : Value → Value → Bool
  | .float d, .float e => d == e
  | .decimal d, .decimal e => d == e
  | .knot _ marks i, .knot _ marks' j => marks[i]?.isSome && marks[i]? == marks'[j]?
  | _, _ => false

def asMembers (v w : Value) (answer : Option Bool) : Option Bool :=
  if identical v w then some true else answer

mutual

/-- Whether two values are equal, given the comparison of values that contain themselves; nothing
if a signalling decimal meets a number on the way. Lists differ at once if their lengths do, tuples
are compared item by item first. -/
def equalBy (deeper : Value → Value → Option Bool) : Value → Value → Option Bool
  | .null, .null => some true
  | .text s, .text t => some (s == t)
  | .bytes s, .bytes t => some (s == t)
  | .date s, .date t => some (s == t)
  | .moment s, .moment t => some (s.same t)
  | .list xs, .list ys => if xs.length = ys.length then equalItems deeper xs ys else some false
  | .tuple xs, .tuple ys => equalItems deeper xs ys
  | .set xs, .set ys => if xs.length = ys.length then someInAll deeper xs ys else some false
  | .map xs, .map ys => if xs.length = ys.length then equalEntries deeper xs ys else some false
  | .object xs, .object ys =>
    if xs.length = ys.length then equalAttributes deeper xs ys else some false
  | v, w =>
    if v.isKnot || w.isKnot then deeper v w
    else match v.number?, w.number? with
      | some a, some b => a.equal? b
      | _, _ => some false

def equalItems (deeper : Value → Value → Option Bool) : List Value → List Value → Option Bool
  | [], [] => some true
  | v :: vs, w :: ws => do
    if ← asMembers v w (equalBy deeper v w) then equalItems deeper vs ws else some false
  | _, _ => some false

def someInAll (deeper : Value → Value → Option Bool) : List Value → List Value → Option Bool
  | [], _ => some true
  | v :: vs, ws =>
    if ws.any fun w => asMembers v w (equalBy deeper v w) == some true then
      someInAll deeper vs ws
    else some false

def equalEntries (deeper : Value → Value → Option Bool) :
    List (Value × Value) → List (Value × Value) → Option Bool
  | [], _ => some true
  | (k, v) :: rest, entries =>
    match entries.find? fun e => asMembers k e.1 (equalBy deeper k e.1) == some true with
    | none => some false
    | some e => do
      if ← asMembers v e.2 (equalBy deeper v e.2) then equalEntries deeper rest entries
      else some false

def equalAttributes (deeper : Value → Value → Option Bool) :
    List (String × Value) → List (String × Value) → Option Bool
  | [], _ => some true
  | (name, v) :: rest, attributes =>
    match attributes.lookup name with
    | none => some false
    | some w => do
      if ← asMembers v w (equalBy deeper v w) then equalAttributes deeper rest attributes
      else some false

end

/-- Whether two values are equal, where values that contain themselves are opened no more often
than the number says. -/
def equalWithin : Nat → Value → Value → Option Bool
  | 0 => fun _ _ => none
  | n + 1 => equalBy fun v w => equalWithin n v.opened w.opened

mutual

def size : Value → Nat
  | .list items => sizes items + 1
  | .tuple items => sizes items + 1
  | .set items => sizes items + 1
  | .map entries => entrySizes entries + 1
  | .object attributes => attributeSizes attributes + 1
  | .knot parts .. => sizes parts + 1
  | _ => 1

def sizes : List Value → Nat
  | [] => 0
  | v :: vs => size v + sizes vs

def entrySizes : List (Value × Value) → Nat
  | [] => 0
  | (k, v) :: rest => size k + size v + entrySizes rest

def attributeSizes : List (String × Value) → Nat
  | [] => 0
  | (_, v) :: rest => size v + attributeSizes rest

end

/-- Whether two values are equal; nothing if a signalling decimal meets a number on the way, or if
the comparison has no end. It has none once it opens more pairs than there are, as some pair has
come again. -/
def equal? (v w : Value) : Option Bool :=
  equalWithin (v.size * w.size + 1) v w

def sameKey (v w : Value) : Bool :=
  asMembers v w (equal? v w) == some true

/-- Entries with one more: a key that is already there keeps its place and takes the new value. -/
def insertEntry (entries : List (Value × Value)) (key value : Value) : List (Value × Value) :=
  if entries.any fun e => sameKey e.1 key then
    entries.map fun e => if sameKey e.1 key then (e.1, value) else e
  else
    entries ++ [(key, value)]

def ofPairs (pairs : List (Value × Value)) : Value :=
  .map (pairs.foldl (fun entries p => insertEntry entries p.1 p.2) [])

def entry? (entries : List (Value × Value)) (key : Value) : Option Value :=
  (entries.find? fun e => sameKey e.1 key).map (·.2)

def field? (entries : List (Value × Value)) (name : String) : Option Value :=
  (entries.find? fun e => e.1.text? == some name).map (·.2)

end Value

end FormCheck
