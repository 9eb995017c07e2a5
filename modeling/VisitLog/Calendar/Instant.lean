import VisitLog.Calendar.Date
import VisitLog.Text.Digits

/-!
# Instants and the stored layout

An `Instant` is a UTC time: seconds since 1970-01-01 00:00:00, and nanoseconds of that second. A
count of nanoseconds of one second or more stands for a leap second after the second named.

`Instant.layout` writes `YYYY-MM-DD HH:MM:SS`, the layout in which all datetimes are stored and
compared. Years outside 0 to 9999 are written with a sign and at least four digits.
-/

namespace VisitLog

open Text

/-- A UTC time; see the head of this module for leap seconds. -/
structure Instant where
  seconds : Int
  nanos : Nat := 0
  deriving DecidableEq, Repr, Inhabited

namespace Instant

/-- Seconds of a day. -/
def daySeconds : Int := 86400

/-- The date of an instant. -/
def date (t : Instant) : Date :=
  ⟨t.seconds / daySeconds⟩

/-- The second of the day, 0 to 86399. -/
def secondOfDay (t : Instant) : Nat :=
  (t.seconds % daySeconds).toNat

/-- Midnight at the start of a date. -/
def midnight (d : Date) : Instant :=
  ⟨d.dayNumber * daySeconds, 0⟩

/-- The instant `n` seconds later. A leap second is left behind: later times count from its first
half, earlier ones from the second after it. -/
def addSeconds (t : Instant) (n : Int) : Instant :=
  if t.nanos < 1000000000 ∨ n = 0 then { t with seconds := t.seconds + n }
  else if 0 < n then ⟨t.seconds + n, t.nanos - 1000000000⟩
  else ⟨t.seconds + 1 + n, t.nanos - 1000000000⟩

/-- The instant `n` days later. -/
def addDays (t : Instant) (n : Int) : Instant :=
  t.addSeconds (n * daySeconds)

/-- The date of the instant is supported. -/
def isSupported (t : Instant) : Bool :=
  Date.first ≤ t.date && t.date ≤ Date.last

end Instant

/-! ## Layouts -/

namespace Civil

/-- Four digits for the years 0 to 9999, a sign and at least four digits for all others. -/
def yearChars (year : Int) : List Char :=
  if 0 ≤ year ∧ year ≤ 9999 then fixedDigits 4 year.toNat
  else (if year < 0 then '-' else '+') :: paddedDigits 4 year.natAbs

/-- `YYYY-MM-DD`. -/
def chars (c : Civil) : List Char :=
  yearChars c.year ++ '-' :: (fixedDigits 2 c.month ++ '-' :: fixedDigits 2 c.day)

end Civil

namespace Date

/-- `YYYY-MM-DD`. -/
def text (d : Date) : String :=
  String.ofList d.civil.chars

end Date

namespace Instant

/-- `HH:MM:SS`, where a leap second is written as second 60. -/
def timeChars (t : Instant) : List Char :=
  let s := t.secondOfDay
  fixedDigits 2 (s / 3600) ++ ':' :: (fixedDigits 2 (s / 60 % 60) ++
    ':' :: fixedDigits 2 (s % 60 + t.nanos / 1000000000))

/-- The stored layout, as characters. -/
def layoutChars (t : Instant) : List Char :=
  t.date.civil.chars ++ ' ' :: t.timeChars

/-- The stored layout `YYYY-MM-DD HH:MM:SS`. -/
def layout (t : Instant) : String :=
  String.ofList t.layoutChars

/-- `YYYY-MM-DDTHH:MM:SSZ`. -/
def rfc3339 (t : Instant) : String :=
  String.ofList (t.date.civil.chars ++ 'T' :: (t.timeChars ++ ['Z']))

end Instant

end VisitLog
