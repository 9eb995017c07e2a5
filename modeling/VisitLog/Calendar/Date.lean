/-!
# Civil dates

A `Date` is a day number counted from 1970-01-01; `Date.civil` and `Date.ofCivil?` relate it to
year, month and day of the proleptic Gregorian calendar with astronomical years (year 0 exists).
Order, successor and differences of dates are those of the day numbers.

The supported years are -262143 to 262142; `Date.first` and `Date.last` are their ends.
-/

namespace VisitLog

/-- A day, counted from 1970-01-01. -/
structure Date where
  dayNumber : Int
  deriving DecidableEq, Repr, Inhabited

/-- Year, month and day of the month. -/
structure Civil where
  year : Int
  month : Nat
  day : Nat
  deriving DecidableEq, Repr, Inhabited

namespace Date

instance : LT Date := ⟨fun a b => a.dayNumber < b.dayNumber⟩
instance : LE Date := ⟨fun a b => a.dayNumber ≤ b.dayNumber⟩
instance (a b : Date) : Decidable (a < b) := inferInstanceAs (Decidable (a.dayNumber < b.dayNumber))
instance (a b : Date) : Decidable (a ≤ b) := inferInstanceAs (Decidable (a.dayNumber ≤ b.dayNumber))

/-- The day `n` days later. -/
def addDays (d : Date) (n : Int) : Date :=
  ⟨d.dayNumber + n⟩

/-- Days between 0000-03-01 and 1970-01-01. -/
def epochShift : Int := 719468

/-- Days from 0000-03-01 to the first of March of year `y`. -/
def daysToMarch (y : Int) : Int :=
  365 * y + y / 4 - y / 100 + y / 400

/-- Days from the first of March to the first of the `n`-th month after it. -/
def daysToMonth (n : Nat) : Nat :=
  (153 * n + 2) / 5

/-- The day number of year, month and day, whether or not the month has that day. -/
def ofParts (year : Int) (month day : Nat) : Date :=
  let y := if month ≤ 2 then year - 1 else year
  ⟨daysToMarch y + (daysToMonth ((month + 9) % 12) + day : Nat) - 1 - epochShift⟩

/-- Year, month and day of a date. A cycle of 400 years has 146097 days; within it the year is
found by undoing the leap days, and the month from the day of the year that starts in March. -/
def civil (d : Date) : Civil :=
  let z := d.dayNumber + epochShift
  let cycle := z / 146097
  let dayOfCycle := (z % 146097).toNat
  let yearOfCycle :=
    (dayOfCycle - dayOfCycle / 1460 + dayOfCycle / 36524 - dayOfCycle / 146096) / 365
  let dayOfYear := dayOfCycle - (365 * yearOfCycle + yearOfCycle / 4 - yearOfCycle / 100)
  let monthFromMarch := (5 * dayOfYear + 2) / 153
  let month := if monthFromMarch < 10 then monthFromMarch + 3 else monthFromMarch - 9
  let year := cycle * 400 + yearOfCycle
  { year := if month ≤ 2 then year + 1 else year
    month := month
    day := dayOfYear - daysToMonth monthFromMarch + 1 }

end Date

namespace Civil

/-- The year has a 29th of February. -/
def isLeap (year : Int) : Bool :=
  year % 4 == 0 && (year % 100 != 0 || year % 400 == 0)

/-- The number of days of a month. -/
def daysInMonth (year : Int) (month : Nat) : Nat :=
  match month with
  | 2 => if isLeap year then 29 else 28
  | 4 | 6 | 9 | 11 => 30
  | _ => 31

/-- The month exists and has that day. -/
def isValid (c : Civil) : Bool :=
  1 ≤ c.month && c.month ≤ 12 && 1 ≤ c.day && c.day ≤ daysInMonth c.year c.month

end Civil

namespace Date

/-- The least supported year. -/
def leastYear : Int := -262143

/-- The greatest supported year. -/
def greatestYear : Int := 262142

/-- The first supported date. -/
def first : Date := ofParts leastYear 1 1

/-- The last supported date. -/
def last : Date := ofParts greatestYear 12 31

/-- The date of a year, month and day that exist and are supported. -/
def ofCivil? (c : Civil) : Option Date :=
  if c.isValid && leastYear ≤ c.year && c.year ≤ greatestYear then
    some (ofParts c.year c.month c.day)
  else none

/-- Every date from `start` to `stop`, both included, as long as a further supported date
follows: `last` itself is never listed. -/
def range (start stop : Date) : List Date :=
  let stop := min stop.dayNumber (last.dayNumber - 1)
  (List.range (stop - start.dayNumber + 1).toNat).map fun i : Nat => start.addDays i

end Date

end VisitLog
