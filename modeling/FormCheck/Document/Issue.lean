import FormCheck.Value

/-! # Issues of documents

What is wrong with the shape of a document, and where: the keys and indices that lead there.
-/

namespace FormCheck

inductive IssueKind where
  | missing
  | notText
  | notUnicode
  | notList
  | notMapping
  | notRecord
  | unknownKey
  | keyNotText
  | notTruth
  | noTruthKind
  | notAChoice
  deriving DecidableEq, Repr, Inhabited

def IssueKind.text : IssueKind → String
  | .missing => "missing"
  | .notText => "string_type"
  | .notUnicode => "string_unicode"
  | .notList => "list_type"
  | .notMapping => "dict_type"
  | .notRecord => "model_type"
  | .unknownKey => "extra_forbidden"
  | .keyNotText => "invalid_key"
  | .notTruth => "bool_parsing"
  | .noTruthKind => "bool_type"
  | .notAChoice => "enum"

structure Issue where
  location : List Value
  kind : IssueKind
  deriving Repr, Inhabited

def Issue.under (key : Value) (i : Issue) : Issue :=
  { i with location := key :: i.location }

end FormCheck
