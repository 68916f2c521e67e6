import FormCheck.TypeExpr

/-! # Declarations

A declaration describes a form before anything about it is checked.
-/

namespace FormCheck

structure FieldDeclaration where
  name : Value
  type : TypeExpr
  attributes : List Metadatum
  deriving Repr, Inhabited

structure FormDeclaration where
  name : Value
  attributes : List Metadatum
  fields : List FieldDeclaration
  deriving Repr, Inhabited

namespace FormDeclaration

def empty (name : Value) : FormDeclaration :=
  { name, attributes := [], fields := [] }

def addAttribute (d : FormDeclaration) (a : Metadatum) : FormDeclaration :=
  { d with attributes := d.attributes ++ [a] }

def addField (d : FormDeclaration) (f : FieldDeclaration) : FormDeclaration :=
  { d with fields := d.fields ++ [f] }

end FormDeclaration

end FormCheck
