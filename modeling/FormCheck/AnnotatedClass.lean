import FormCheck.Declaration
import FormCheck.Pattern.Basic
import FormCheck.Text.Normal
import FormCheck.TypeExpr.Evaluation

/-! # Annotated classes

A form can be declared by a class whose variables are annotated. Classes inherit: a class carries
the list of its layers, itself first, in the order in which names are looked up. A record class has
a fixed list of fields, to which it adds its own variables; a class that is none and inherits from
one keeps the inherited list.
-/

namespace FormCheck

structure Variable where
  name : String
  type : TypeExpr
  default : Option Value
  deriving Repr, Inhabited

structure RecordField where
  name : String
  kind : RecordKind
  hasDefault : Bool
  deriving DecidableEq, Repr, Inhabited

inductive MethodOrigin where
  | written
  | generated
  deriving DecidableEq, Repr, Inhabited

/-- What one class adds to those it inherits from. The visible record is the list of record fields
that the class shows, its own or an inherited one. -/
structure Layer where
  id : Nat
  annotations : List (String × TypeExpr)
  values : List (String × Value)
  method : Option MethodOrigin
  ownRecord : Option (List RecordField)
  visibleRecord : Option (List RecordField)
  deriving Repr, Inhabited

def Layer.gives (l : Layer) (name : String) : Bool :=
  (l.values.lookup name).isSome || (name == "validate" && l.method.isSome)

/-- Whether a layer says that `validate` is something, or nothing; a layer that does not know the
name says neither. -/
def Layer.method? (l : Layer) : Option (Option MethodOrigin) :=
  match l.method, l.values.lookup "validate" with
  | some origin, _ => some (some origin)
  | none, some v => some (if v.isNull then none else some .written)
  | none, none => none

/-- A class with its layers in look-up order, itself first. -/
structure AnnotatedClass where
  name : String
  layers : List Layer
  deriving Repr, Inhabited

structure ClassDefinition where
  name : String
  bases : List AnnotatedClass
  ownVariables : List Variable
  isRecord : Bool
  hasMethod : Bool
  deriving Repr, Inhabited

inductive ClassFlaw where
  | repeatedBase
  | inconsistentBases
  | sharedDefault (field : String) (kind : String)
  | missingDefault (field : String)
  | unreadableField (name : String)
  | unsteadyField (name : String)
  | noModule (field : String)
  | written (flaw : NameFlaw)
  deriving DecidableEq, Repr, Inhabited

def ClassFlaw.message : ClassFlaw → String
  | .repeatedBase => "duplicate base class"
  | .inconsistentBases => "no consistent order of the bases"
  | .sharedDefault field kind =>
    s!"mutable default <class '{kind}'> for field {field} is not allowed: use default_factory"
  | .missingDefault field => s!"non-default argument '{field}' follows default argument"
  | .unreadableField name => s!"{name} is no name"
  | .unsteadyField name => s!"{name} is another name when it is read"
  | .noModule field => s!"no module to look for the type of {field}"
  | .written flaw => flaw.message

/-- A list of named things with one more; a name that is there keeps its place and takes the new
thing. -/
def insertNamed {α : Type} (entries : List (String × α)) (e : String × α) : List (String × α) :=
  if entries.any fun f => f.1 == e.1 then
    entries.map fun f => if f.1 == e.1 then e else f
  else entries ++ [e]

def mergeNamed {α : Type} (entries : List (String × α)) : List (String × α) :=
  entries.foldl insertNamed []

namespace AnnotatedClass

/-! ## Look-up order -/

def isInTail (id : Nat) (lists : List (List Layer)) : Bool :=
  lists.any fun l => l.tail.any fun layer => layer.id == id

def dropHead (id : Nat) (lists : List (List Layer)) : List (List Layer) :=
  lists.map fun l =>
    match l with
    | layer :: rest => if layer.id == id then rest else l
    | [] => []

/-- Merges look-up orders: takes the first head that comes later in no list, again and again. The
first number is fuel. -/
def mergeOrders : Nat → List (List Layer) → Option (List Layer)
  | 0, _ => some []
  | fuel + 1, lists =>
    match lists.filterMap List.head? with
    | [] => some []
    | heads => do
      let next ← heads.find? fun layer => !isInTail layer.id lists
      let rest ← mergeOrders fuel (dropHead next.id lists)
      pure (next :: rest)

def id? (c : AnnotatedClass) : Option Nat :=
  c.layers.head?.map (·.id)

def inherited (bases : List AnnotatedClass) : Except ClassFlaw (List Layer) :=
  let ids := bases.filterMap id?
  if ids.eraseDups.length < ids.length then .error .repeatedBase
  else
    let orders := bases.map (·.layers) ++ [bases.filterMap fun b => b.layers.head?]
    match mergeOrders (orders.flatten.length + 1) orders with
    | some layers => .ok layers
    | none => .error .inconsistentBases

/-! ## Records -/

def sharedKind? : Value → Option String
  | .list _ => some "list"
  | .map _ => some "dict"
  | .set _ => some "set"
  | .object _ => some "types.SimpleNamespace"
  | _ => none

/-- The members that every class has, whatever its layers say, and that may not be shared. -/
def sharedMembers : List (String × String) :=
  [("__annotations__", "dict"), ("__dict__", "mappingproxy")]

def fixedMembers : List String :=
  ["__base__", "__bases__", "__basicsize__", "__class__", "__dictoffset__", "__flags__",
   "__itemsize__", "__mro__", "__name__", "__qualname__", "__text_signature__",
   "__weakrefoffset__"]

/-- The members that every class has unless its layers say something else. -/
def commonMembers : List String :=
  ["__call__", "__delattr__", "__dir__", "__doc__", "__eq__", "__format__", "__ge__",
   "__getattribute__", "__getstate__", "__gt__", "__hash__", "__init__", "__init_subclass__",
   "__instancecheck__", "__le__", "__lt__", "__module__", "__ne__", "__new__", "__or__",
   "__prepare__", "__reduce__", "__reduce_ex__", "__repr__", "__ror__", "__setattr__",
   "__sizeof__", "__str__", "__subclasscheck__", "__subclasses__", "__subclasshook__",
   "__weakref__", "mro"]

def hasMember (layers : List Layer) (name : String) : Bool :=
  (layers.any fun l => l.gives name) || (sharedMembers.lookup name).isSome ||
    fixedMembers.contains name || commonMembers.contains name

def sharedMember? (layers : List Layer) (name : String) : Option String :=
  match sharedMembers.lookup name with
  | some kind => some kind
  | none =>
    if fixedMembers.contains name then none
    else (layers.findSome? fun l => l.values.lookup name).bind sharedKind?

def firstWord (cs : List Char) : List Char × List Char :=
  (cs.dropWhile Text.isSpace).span (Pattern.Category.word.contains false)

def isBareWord (text : String) : Bool :=
  let (word, rest) := firstWord text.toList
  match rest.dropWhile Text.isSpace with
  | '.' :: more => !word.isEmpty && (firstWord more).1.isEmpty
  | _ => !word.isEmpty

/-- The record field of an own variable. A text that names no module would be looked up in the
module of the class, which has none. -/
def recordField (layers : List Layer) (name : String) (type : TypeExpr) :
    Except ClassFlaw (String × RecordField) :=
  match type.written?.any isBareWord, type.recordKind, sharedMember? layers name with
  | true, _, _ => .error (.noModule name)
  | false, .field, some kind => .error (.sharedDefault name kind)
  | false, kind, _ => .ok (name, { name, kind, hasDefault := hasMember layers name })

def readName? (text : String) : Option String :=
  let name := String.ofList (text.toList.reverse.dropWhile Expression.Token.isGap).reverse
  if Text.isIdentifierList name.toList && Expression.Reading.isBindable name then
    some (Text.normalForm name)
  else none

/-- Refuses fields whose texts cannot stand side by side as names, or are read as other names. -/
def checkNames (fields : List String) : Except ClassFlaw Unit := do
  let own := if fields.contains "self" then "__dataclass_self__" else "self"
  let names ← fields.mapM fun f => ((readName? f).map .ok).getD (.error (.unreadableField f))
  match (names.find? (· == own)).or (names.find? fun name => 1 < names.count name) with
  | some name => throw (.unreadableField name)
  | none =>
    match (fields.zip names).find? fun f => f.1 != f.2 with
    | some f => throw (.unsteadyField f.1)
    | none => pure ()

def missingDefault? (fields : List RecordField) : Option RecordField :=
  (fields.dropWhile fun f => !f.hasDefault).find? fun f => !f.hasDefault

/-- The fields of a record class: those of the bases, the last first, and its own variables. -/
def recordFields (own : Layer) (bases : List Layer) : Except ClassFlaw (List RecordField) := do
  let old := bases.reverse.flatMap fun l => (l.visibleRecord.getD []).map fun f => (f.name, f)
  let new ← own.annotations.mapM fun a => recordField (own :: bases) a.1 a.2
  let fields := (mergeNamed (old ++ new)).map (·.2)
  let settable := fields.filter fun f => f.kind != .ofClass
  match missingDefault? settable with
  | some f => throw (.missingDefault f.name)
  | none =>
    checkNames (settable.map (·.name))
    pure fields

def define (id : Nat) (d : ClassDefinition) : Except ClassFlaw AnnotatedClass := do
  let bases ← inherited d.bases
  let own : Layer :=
    { id
      annotations := mergeNamed (d.ownVariables.map fun v => (v.name, v.type))
      values := mergeNamed (d.ownVariables.filterMap fun v => v.default.map fun w => (v.name, w))
      method := if d.hasMethod then some .written else none
      ownRecord := none
      visibleRecord := bases.findSome? (·.ownRecord) }
  if d.isRecord then
    let fields ← recordFields own bases
    let own := { own with ownRecord := some fields, visibleRecord := some fields }
    pure { name := d.name, layers := own :: bases }
  else pure { name := d.name, layers := own :: bases }

/-! ## Fields -/

/-- The annotations of a class: those of the last base first, where the nearest prevails. A text is
evaluated where the names have the values that its layer gives them. -/
def annotations (c : AnnotatedClass) : Except ClassFlaw (List (String × TypeExpr)) := do
  let all ← c.layers.reverse.mapM fun l => l.annotations.mapM fun a =>
    match a.2 with
    | .value .null => pure (a.1, .builtin .none)
    | type => do
      let type ← (type.evaluate l.values).mapError .written
      pure (a.1, type)
  pure (mergeNamed all.flatten)

def isHidden (name : String) : Bool :=
  name.toList.head? == some '_'

def fieldNames (c : AnnotatedClass) (annotations : List (String × TypeExpr)) : List String :=
  match c.layers.findSome? (·.ownRecord) with
  | some fields => (fields.filter fun f => f.kind == .field).map (·.name)
  | none => (annotations.map (·.1)).filter fun name => !isHidden name

def field? (annotations : List (String × TypeExpr)) (name : String) : Option FieldDeclaration := do
  let type ← annotations.lookup name
  if type.isClassVar then none
  else
    let (type, attributes) := type.split
    some { name := .text name, type, attributes }

def declaration (c : AnnotatedClass) (attributes : List Metadatum) :
    Except ClassFlaw FormDeclaration := do
  let annotations ← c.annotations
  pure { name := .text c.name, attributes
         fields := (c.fieldNames annotations).filterMap (field? annotations) }

/-! ## Members -/

def method (c : AnnotatedClass) : Option MethodOrigin :=
  (c.layers.findSome? Layer.method?).join

def withMethod (c : AnnotatedClass) : AnnotatedClass :=
  match c.layers with
  | own :: bases => { c with layers := { own with method := some .generated } :: bases }
  | [] => c

def member (c : AnnotatedClass) (set : List (String × Value)) : Value :=
  .object (set ++ c.layers.flatMap (·.values))

end AnnotatedClass

end FormCheck
