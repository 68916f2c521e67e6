import FormCheck.Proofs.Document.Translation
import FormCheck.Proofs.Loading

/-! # Refused documents

A document that has not the shape of a form is refused with the issues of its shape, under the name
that it gives. The refusal has to put the name into words: if the name counts as something but is no
text, the work stops instead. It also stops over a bound that is too long to be written
(`Document.declaration_outcomes`).
-/

namespace FormCheck

namespace Document

variable {v : Value}

theorem exists_issues (other : ¬ IsForm v) : ∃ issues, read v = .error issues := by
  cases made : read v with
  | ok document => exact absurd (read_ok_iff.1 made).1 other
  | error issues => exact ⟨issues, rfl⟩

theorem declaration_of_not_isForm (other : ¬ IsForm v) :
    ∃ issues, declaration v =
      .error (Failure.ofError (.inForm (nameOf v) (.malformed (.document issues)))) := by
  obtain ⟨issues, refused⟩ := exists_issues other
  exact ⟨issues, by rw [declaration, refused]⟩

theorem declaration_of_isForm (form : IsForm v) :
    declaration v = (described v).declaration.mapError .fault := by
  rw [declaration, read_ok_iff.2 ⟨form, rfl⟩]

theorem declaration_of_not_writable (form : IsForm v) (overlong : ¬ (described v).Writable) :
    declaration v = .error (.fault (.integerTooLong none)) := by
  rw [declaration_of_isForm form]
  cases made : (described v).declaration with
  | ok d => exact absurd (FormDocument.declaration_ok_iff.1 made).1 overlong
  | error f =>
    rw [FormDocument.declaration_error made]
    rfl

theorem ofError_of_isLabel {form : Value} (label : form.IsLabel) (cause : Cause) :
    Failure.ofError (.inForm form cause) = .build (.inForm form cause) :=
  if_pos (BuildError.renders_of_form label cause .null)

theorem ofError_of_not_isLabel {form : Value} (other : ¬ form.IsLabel) (cause : Cause) :
    Failure.ofError (.inForm form cause) = .fault .nameNotText :=
  if_neg fun renders => other (BuildError.renders_iff.1 renders).1

/-- What becomes of a document: by its shape, its bounds and its name. -/
theorem declaration_outcomes (v : Value) :
    ((∃ d, declaration v = .ok d) ↔ IsForm v ∧ (described v).Writable) ∧
      ((∃ issues, declaration v =
          .error (.build (.inForm (nameOf v) (.malformed (.document issues))))) ↔
        ¬ IsForm v ∧ (nameOf v).IsLabel) ∧
      (declaration v = .error (.fault (.integerTooLong none)) ↔
        IsForm v ∧ ¬ (described v).Writable) ∧
      (declaration v = .error (.fault .nameNotText) ↔ ¬ IsForm v ∧ ¬ (nameOf v).IsLabel) := by
  by_cases form : IsForm v
  · by_cases writable : (described v).Writable
    · have made := declaration_ok_iff.2 ⟨form, writable, rfl⟩
      simp [made, form, writable]
    · have stopped := declaration_of_not_writable form writable
      simp [stopped, form, writable]
  · obtain ⟨issues, refused⟩ := declaration_of_not_isForm form
    by_cases label : (nameOf v).IsLabel
    · rw [ofError_of_isLabel label] at refused
      simpa [refused, form, label] using ⟨issues, rfl⟩
    · rw [ofError_of_not_isLabel label] at refused
      simp [refused, form, label]

def numbered : Value :=
  .map [(.text "name", .int 5)]

theorem numbered_stops :
    declaration numbered = .error (.fault .nameNotText) ∧ (∀ d, declaration numbered ≠ .ok d) ∧
      ∀ e, declaration numbered ≠ .error (.build e) := by
  have name : numbered.at? "name" = some (.int 5) := rfl
  have other : ¬ IsForm numbered := fun form => by
    obtain ⟨w, found, spelled⟩ := form.name
    cases name.symm.trans found
    cases spelled
  have unlabelled : ¬ (nameOf numbered).IsLabel := fun label => nomatch label rfl
  obtain ⟨issues, refused⟩ := declaration_of_not_isForm other
  rw [ofError_of_not_isLabel unlabelled] at refused
  simp [refused]

end Document

end FormCheck
