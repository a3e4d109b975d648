/-!
# Dates and times

An `Instant` is a count of microseconds since the beginning of 1970, a `Date` and a `Timestamp` are
civil dates and times as documents write them. All three have one text form, the one that sorts.
-/
namespace Workflow

/-- Pads the decimal digits of `n` with zeros to at least `width`. -/
def padded (width n : Nat) : String :=
  let digits := toString n
  String.ofList (List.replicate (width - digits.length) '0') ++ digits

/-- A civil date. -/
structure Date where
  year : Nat
  month : Nat
  day : Nat
deriving DecidableEq, Inhabited

namespace Date

def isLeapYear (year : Nat) : Bool := year % 4 == 0 && (year % 100 != 0 || year % 400 == 0)

def daysInMonth (year month : Nat) : Nat :=
  if month == 2 then (if isLeapYear year then 29 else 28)
  else if month == 4 || month == 6 || month == 9 || month == 11 then 30
  else 31

def text (d : Date) : String := padded 4 d.year ++ "-" ++ padded 2 d.month ++ "-" ++ padded 2 d.day

/-- The date that is a number of days after the first of January 1970. -/
def ofDays (days : Int) : Date :=
  let shifted := days + 719468
  let era := shifted.fdiv 146097
  let dayOfEra := (shifted - era * 146097).toNat
  let yearOfEra := (dayOfEra - dayOfEra / 1460 + dayOfEra / 36524 - dayOfEra / 146096) / 365
  let dayOfYear := dayOfEra - (365 * yearOfEra + yearOfEra / 4 - yearOfEra / 100)
  let part := (5 * dayOfYear + 2) / 153
  let month := if part < 10 then part + 3 else part - 9
  let year := (yearOfEra : Int) + era * 400 + (if month ≤ 2 then 1 else 0)
  ⟨year.toNat, month, dayOfYear - (153 * part + 2) / 5 + 1⟩

/-- The days from the first of January 1970 to a date. -/
def days (d : Date) : Int :=
  let year := if d.month ≤ 2 then d.year - 1 else d.year
  let month := if d.month ≤ 2 then d.month + 9 else d.month - 3
  let yearOfEra := year % 400
  let dayOfYear := (153 * month + 2) / 5 + d.day - 1
  let dayOfEra := yearOfEra * 365 + yearOfEra / 4 - yearOfEra / 100 + dayOfYear
  ((year / 400 * 146097 + dayOfEra : Nat) : Int) - 719468

end Date

/-- A time of day. -/
structure TimeOfDay where
  hour : Nat
  minute : Nat
  second : Nat
  microsecond : Nat
deriving DecidableEq, Inhabited

/-- The microseconds since midnight. -/
def TimeOfDay.microseconds (t : TimeOfDay) : Nat :=
  ((t.hour * 60 + t.minute) * 60 + t.second) * 1000000 + t.microsecond

/-- The microseconds are written if there are any. -/
def TimeOfDay.text (t : TimeOfDay) : String :=
  padded 2 t.hour ++ ":" ++ padded 2 t.minute ++ ":" ++ padded 2 t.second ++
    (if t.microsecond == 0 then "" else "." ++ padded 6 t.microsecond)

/-- A civil date and time, with its distance from universal time in seconds if it has one. -/
structure Timestamp where
  date : Date
  time : TimeOfDay
  offset : Option Int
deriving DecidableEq, Inhabited

namespace Timestamp

/-- A sign, hours and minutes. -/
def offsetText (seconds : Int) : String :=
  let n := seconds.natAbs
  (if seconds < 0 then "-" else "+") ++ padded 2 (n / 3600) ++ ":" ++ padded 2 (n / 60 % 60)

/-- The date and the time with a separator between them. -/
def textWith (separator : String) (t : Timestamp) : String :=
  t.date.text ++ separator ++ t.time.text ++ (t.offset.map offsetText).getD ""

/-- The text that sorts like the time, with `T` between date and time. -/
def text (t : Timestamp) : String := t.textWith "T"

end Timestamp

/-- A point in time: microseconds since the beginning of 1970, universal time. -/
structure Instant where
  microseconds : Int
deriving DecidableEq, Inhabited

namespace Instant

def later (t : Instant) (microseconds : Int) : Instant := ⟨t.microseconds + microseconds⟩

/-- The civil time of an instant in universal time. -/
def timestamp (t : Instant) : Timestamp :=
  let day := t.microseconds.fdiv 86400000000
  let rest := (t.microseconds - day * 86400000000).toNat
  let seconds := rest / 1000000
  ⟨Date.ofDays day, ⟨seconds / 3600, seconds / 60 % 60, seconds % 60, rest % 1000000⟩, some 0⟩

def text (t : Instant) : String := t.timestamp.text

end Instant

namespace Timestamp

/-- The point in time of a timestamp that has its distance from universal time. -/
def instant? (t : Timestamp) : Option Instant :=
  t.offset.map fun offset =>
    ⟨(t.date.days * 86400 - offset) * 1000000 + t.time.microseconds⟩

/-- Whether two timestamps are equal: those with offsets are if they are one point in time. -/
def same (a b : Timestamp) : Bool :=
  match a.instant?, b.instant? with
  | some x, some y => x == y
  | _, _ => a == b

end Timestamp

end Workflow
