import FormCheck.TypeExpr.Meaning

/-! # Evaluation of annotations

An annotation may be written, by itself or inside another one. Evaluating an annotation puts what a
text means for each text and combines the parts anew, so that a union stays free of repetitions. A
text may mean another text, which is evaluated in its turn; one that comes again while it is
evaluated is left as it is.
-/

namespace FormCheck

/-- What a variable is to a record class: a field, a variable of the class itself, or a parameter
that is given to an instance when it is made, and not kept. -/
inductive RecordKind where
  | field
  | ofClass
  | parameter
  deriving DecidableEq, Repr, Inhabited

namespace TypeExpr

def written? : TypeExpr → Option String
  | .named s => some s
  | .forward s => some s
  | .value (.text s) => some s
  | _ => none

def checkWritten (as : List TypeExpr) : Except NameFlaw Unit :=
  (as.filterMap written?).forM fun s => do
    let _ ← (Expression.ofText s).mapError .text
    pure ()

mutual

def resolve (text : String → Except NameFlaw TypeExpr) : TypeExpr → Except NameFlaw TypeExpr
  | .named s => text s
  | .forward s => text s
  | .value (.text s) => text s
  | .union style members => do
    let members ← resolveAll text members
    match style with
    | .bracket => combined (bracketUnion members)
    | .bar => combined (barUnion members)
  | .annotated base metadata => do
    let base ← resolve text base
    pure (.annotated base metadata)
  | .generic c arguments => do
    checkWritten arguments
    let arguments ← resolveAll text arguments
    pure (.generic c arguments)
  | .classVar inner => do
    let inner ← resolve text inner
    pure (.classVar inner)
  | a => .ok a

def resolveAll (text : String → Except NameFlaw TypeExpr) :
    List TypeExpr → Except NameFlaw (List TypeExpr)
  | [] => .ok []
  | a :: rest => do
    let a ← resolve text a
    let rest ← resolveAll text rest
    pure (a :: rest)

end

def ofText (scope : List (String × Value)) :
    Nat → List String → String → Except NameFlaw TypeExpr
  | 0, _, _ => .error .misuse
  | fuel + 1, around, text =>
    if around.contains text then .ok (.forward text)
    else do
      let e ← (Expression.ofText text).mapError .text
      let m ← e.meaning scope
      let a ← combined (argument m)
      resolve (ofText scope fuel (text :: around)) a

/-- How many texts can follow each other in evaluating one: each comes from the one before, and is
shorter, or is the value of a name. -/
def depthBound (scope : List (String × Value)) (text : String) : Nat :=
  scope.foldl (fun n e => n + ((e.2.text?.map String.length).getD 0) + 1) (text.length + 32)

def evaluate (scope : List (String × Value)) (a : TypeExpr) : Except NameFlaw TypeExpr :=
  resolve (fun text => ofText scope (depthBound scope text) [] text) a

def isClassVar : TypeExpr → Bool
  | .classVar _ => true
  | _ => false

def recordKind : TypeExpr → RecordKind
  | .bareClassVar => .ofClass
  | .classVar _ => .ofClass
  | .builtin .initVar => .parameter
  | .initVar .. => .parameter
  | _ => .field

def attributesOf (metadata : List Metadatum) : List Metadatum :=
  metadata.filter fun m => m.attribute?.isSome

def memberAttributes : TypeExpr → List Metadatum
  | .annotated _ metadata => attributesOf metadata
  | _ => []

/-- The type and the attributes that an annotation declares. Attributes are those of the annotation
itself, or of the members if it is a union, which stays the type as it is. -/
def split : TypeExpr → TypeExpr × List Metadatum
  | .annotated base metadata => (base, attributesOf metadata)
  | .union style members => (.union style members, members.flatMap memberAttributes)
  | a => (a, [])

end TypeExpr

end FormCheck
