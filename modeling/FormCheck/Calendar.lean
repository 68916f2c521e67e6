import FormCheck.Number.Digits

/-! # Dates and moments

A date of the Gregorian calendar, and a moment of a day to the microsecond with an optional
offset from universal time in minutes.
-/

namespace FormCheck

structure Date where
  year : Nat
  month : Nat
  day : Nat
  deriving DecidableEq, Repr, Inhabited

structure Moment where
  date : Date
  hour : Nat
  minute : Nat
  second : Nat
  microsecond : Nat
  offset : Option Int
  deriving DecidableEq, Repr, Inhabited

namespace Date

def isLeap (year : Nat) : Bool :=
  year % 4 == 0 && (year % 100 != 0 || year % 400 == 0)

def daysIn (year month : Nat) : Nat :=
  if month = 2 then (if isLeap year then 29 else 28)
  else if month = 4 ∨ month = 6 ∨ month = 9 ∨ month = 11 then 30
  else 31

def daysBeforeYear (year : Nat) : Nat :=
  let y := year - 1
  y * 365 + y / 4 - y / 100 + y / 400

def daysBeforeMonth (year month : Nat) : Nat :=
  (List.range (month - 1)).foldl (fun days m => days + daysIn year (m + 1)) 0

/-- The number of a date, counted from the first of January of the year 1. -/
def ordinal (d : Date) : Nat :=
  daysBeforeYear d.year + daysBeforeMonth d.year d.month + d.day

def literal (d : Date) : String :=
  s!"datetime.date({d.year}, {d.month}, {d.day})"

end Date

namespace Moment

/-- Microseconds of a moment on its own clock, or in universal time if it has an offset. -/
def instant (m : Moment) : Int :=
  let seconds : Int := ((m.date.ordinal * 24 + m.hour) * 60 + m.minute) * 60 + m.second
  (seconds - m.offset.getD 0 * 60) * 1000000 + m.microsecond

/-- Whether two moments are the same: both with or both without an offset, at the same time. -/
def same (a b : Moment) : Bool :=
  a.offset.isSome == b.offset.isSome && a.instant == b.instant

def offsetLiteral (minutes : Int) : String :=
  if minutes = 0 then "datetime.timezone.utc"
  else
    let seconds := minutes * 60
    let span :=
      if 0 ≤ seconds then s!"seconds={Number.intText seconds}"
      else
        let days := Int.fdiv seconds 86400
        let rest := Int.fmod seconds 86400
        s!"days={Number.intText days}" ++
          (if rest = 0 then "" else s!", seconds={Number.intText rest}")
    s!"datetime.timezone(datetime.timedelta({span}))"

def literal (m : Moment) : String :=
  let clock := if m.microsecond ≠ 0 then [m.hour, m.minute, m.second, m.microsecond]
    else if m.second ≠ 0 then [m.hour, m.minute, m.second]
    else [m.hour, m.minute]
  let parts := [m.date.year, m.date.month, m.date.day] ++ clock
  let zone := match m.offset with
    | none => ""
    | some minutes => s!", tzinfo={offsetLiteral minutes}"
  "datetime.datetime(" ++ ", ".intercalate (parts.map toString) ++ zone ++ ")"

end Moment

end FormCheck
