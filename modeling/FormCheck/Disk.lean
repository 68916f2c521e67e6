import FormCheck.Path

/-! # Files

What can be found on a disk under each path: nothing, a directory, or data. Where a path leads
through data as if it were a directory there is nothing either, but for another reason. Relative
paths count from the working directory. How deeply a file may nest collections is up to the machine
that reads it.
-/

namespace FormCheck

inductive FileState where
  | missing
  | beyondData
  | directory
  | data (bytes : List UInt8)
  deriving DecidableEq, Repr, Inhabited

def FileState.exists? : FileState → Bool
  | .missing => false
  | .beyondData => false
  | _ => true

/-- A disk with its working directory, and how deeply the file of a path may nest collections. -/
structure Disk where
  directory : String
  state : String → FileState
  depth : String → Nat

end FormCheck
