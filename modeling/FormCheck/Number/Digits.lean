/-! # Decimal digits

The decimal digits of numbers. Integers are read from and written to text up to a limit of digits.
-/

namespace FormCheck.Number

/-- The decimal digits of a number, most significant first; zero has one digit. -/
def digits (n : Nat) : List Char :=
  Nat.toDigits 10 n

def width (n : Nat) : Nat :=
  (digits n).length

def ofDigits (ds : List Nat) : Nat :=
  ds.foldl (fun n d => 10 * n + d) 0

def intText (i : Int) : String :=
  (if i < 0 then "-" else "") ++ String.ofList (digits i.natAbs)

def digitLimit : Nat := 4300

def writeLimit : Nat := Nat.pow 10 digitLimit

def isWritable (i : Int) : Bool :=
  i.natAbs < writeLimit

def tooLongText (digits : Option Nat) : String :=
  let known := match digits with
    | some n => s!": value has {n} digits"
    | none => ""
  s!"Exceeds the limit ({digitLimit} digits) for integer string conversion{known}; " ++
    "use sys.set_int_max_str_digits() to increase the limit"

/-- A quotient of natural numbers rounded to the nearest, ties to the even neighbour. -/
def divNearestEven (num den : Nat) : Nat :=
  let q := num / den
  let r := num % den
  if 2 * r < den then q
  else if den < 2 * r then q + 1
  else if q % 2 = 0 then q
  else q + 1

end FormCheck.Number
