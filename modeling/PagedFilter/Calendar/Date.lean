/-!
Dates of the Gregorian calendar, extended backwards, and their count of days from 1 January 1970.
Years are counted from March so that the leap day ends a year.
-/

-- Powers are those of the core library in every module, whatever else it imports.
attribute [instance (high), default_instance (high + 1)] instPowNat

namespace PagedFilter

/-- A year, a month from 1 to 12 and a day of the month from 1. -/
structure Date where
  year : Int
  month : Nat
  day : Nat
  deriving DecidableEq, Repr

namespace Date

def isLeapYear (year : Int) : Bool :=
  decide (year % 4 = 0) && (decide (year % 100 ≠ 0) || decide (year % 400 = 0))

def daysInMonth (year : Int) (month : Nat) : Nat :=
  if month = 2 then (if isLeapYear year then 29 else 28)
  else if month = 4 ∨ month = 6 ∨ month = 9 ∨ month = 11 then 30
  else 31

def isValid (d : Date) : Bool :=
  decide (1 ≤ d.month) && decide (d.month ≤ 12) && decide (1 ≤ d.day) &&
    decide (d.day ≤ daysInMonth d.year d.month)

/-- Days from 1 March of a year to the first of its month number `m`, counted from March as 0. -/
def daysBeforeMonth (m : Nat) : Nat := (153 * m + 2) / 5

/-- Days from 1 January 1970. -/
def toDays (d : Date) : Int :=
  let year := if d.month ≤ 2 then d.year - 1 else d.year
  let month := (d.month + 9) % 12
  let ofEra := year % 400
  let ofYear : Int := (daysBeforeMonth month : Nat) + (d.day : Int) - 1
  year / 400 * 146097 + (ofEra * 365 + ofEra / 4 - ofEra / 100 + ofYear) - 719468

/-- The date a number of days from 1 January 1970. -/
def ofDays (days : Int) : Date :=
  let shifted := days + 719468
  let ofEra := (shifted % 146097).toNat
  let yearOfEra := (ofEra - ofEra / 1460 + ofEra / 36524 - ofEra / 146096) / 365
  let ofYear := ofEra - (365 * yearOfEra + yearOfEra / 4 - yearOfEra / 100)
  let month := (5 * ofYear + 2) / 153
  let day := ofYear - daysBeforeMonth month + 1
  let year := shifted / 146097 * 400 + (yearOfEra : Int)
  if month < 10 then ⟨year, month + 3, day⟩ else ⟨year + 1, month - 9, day⟩

example : toDays ⟨1970, 1, 1⟩ = 0 := by decide

example : toDays ⟨0, 2, 29⟩ = -719469 := by decide

example : ofDays (-719469) = ⟨0, 2, 29⟩ := by decide

end Date

end PagedFilter
