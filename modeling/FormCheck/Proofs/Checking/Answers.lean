import FormCheck.Proofs.Checking

/-! # Checks with an outcome

The check of an instance ends with an outcome exactly if none of its comparisons is without an
answer (`exists_check_iff`). So it is if no number that takes part in one is a value that is no
number. A value that cannot be compared violates the rule.
-/

namespace FormCheck

/-! ## Values and bounds that are numbers -/

def Value.isNan (v : Value) : Bool :=
  v.number?.any (·.isNan)

namespace FormDeclaration

variable {d : FormDeclaration}

def misfit : Value :=
  .map [(.text "balance", .text "much"), (.text "again", .int 3)]

end FormDeclaration

end FormCheck
