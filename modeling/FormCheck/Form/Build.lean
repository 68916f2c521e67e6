import FormCheck.Form
import FormCheck.Spec.Reading
import FormCheck.Spec.Resolution

/-! # Building forms

A declaration is read, resolved and made into a form, whose registry is frozen from then on.
-/

namespace FormCheck

def Failure.ofFault {α : Type} (result : Except Fault α) : Except Failure α :=
  result.mapError .fault

namespace FormDeclaration

def spec (d : FormDeclaration) (failFast : Bool) : Except Failure FormSpec := do
  let spec ← d.read failFast
  spec.resolve failFast

def finish (s : FormSpec) : Except Failure Form := do
  let form ← Failure.ofFault (Form.ofSpec s)
  pure { form with spec := { s with registry := s.registry.freeze } }

def build (d : FormDeclaration) (failFast : Bool) : Except Failure Form := do
  let spec ← d.spec failFast
  finish spec

def buildNext (failFast : Bool) (forms : List (Value × Form)) (d : FormDeclaration) :
    Except Failure (List (Value × Form)) :=
  if !d.name.hashable then .error (.fault .unhashable)
  else if forms.any fun f => Value.sameKey f.1 d.name then
    .error (.fault (.formRepeated d.name))
  else do
    let form ← d.build failFast
    pure (forms ++ [(d.name, form)])

def buildAll (ds : List FormDeclaration) (failFast : Bool) :
    Except Failure (List (Value × Form)) :=
  ds.foldlM (buildNext failFast) []

end FormDeclaration

end FormCheck
