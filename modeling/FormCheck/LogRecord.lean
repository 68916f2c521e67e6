/-! # Log records

What is told about the work while it is done. Each record has a weight, and only records that are at
least as heavy as the set weight are shown.
-/

namespace FormCheck

inductive LogLevel where
  | error
  | warn
  | info
  | debug
  deriving DecidableEq, Repr, Inhabited

namespace LogLevel

def text : LogLevel → String
  | .error => "error"
  | .warn => "warn"
  | .info => "info"
  | .debug => "debug"

def all : List LogLevel := [.error, .warn, .info, .debug]

def rank : LogLevel → Nat
  | .error => 0
  | .warn => 1
  | .info => 2
  | .debug => 3

/-- Whether records of a weight are shown where another one is set. -/
def admits (set weight : LogLevel) : Bool :=
  weight.rank ≤ set.rank

end LogLevel

structure LogRecord where
  level : LogLevel
  message : String
  deriving DecidableEq, Repr, Inhabited

end FormCheck
