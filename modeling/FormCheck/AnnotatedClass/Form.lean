import FormCheck.AnnotatedClass
import FormCheck.Form.Build

/-! # Forms of classes

A class gets the method `validate` of the form that it declares. A name `validate` that means
something else already, as a field or as a member, is an error of the declaration; the method of a
form may be replaced.
-/

namespace FormCheck.AnnotatedClass

def isTaken (c : AnnotatedClass) (d : FormDeclaration) : Bool :=
  (d.fields.any fun f => f.name.text? == some "validate") || c.method == some .written

def attach (c : AnnotatedClass) (d : FormDeclaration) (failFast : Bool) :
    Except Failure (Form × AnnotatedClass) :=
  if c.isTaken d then
    .error (Failure.ofError (.inForm (.text c.name) (.malformed .validateTaken)))
  else do
    let form ← d.build failFast
    pure (form, c.withMethod)

end FormCheck.AnnotatedClass
