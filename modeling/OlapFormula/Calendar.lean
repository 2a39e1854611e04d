/-!
# Calendar dates

The Gregorian calendar, extended to all years. Year 0 exists.
-/

namespace OlapFormula

def isLeapYear (year : Int) : Bool := year % 4 == 0 && (year % 100 != 0 || year % 400 == 0)

def daysInMonth (year : Int) (month : Nat) : Nat :=
  if month = 2 then if isLeapYear year then 29 else 28
  else if month = 4 || month = 6 || month = 9 || month = 11 then 30
  else 31

structure Date where
  year : Int
  month : Nat
  day : Nat
  month_mem : 1 ≤ month ∧ month ≤ 12
  day_mem : 1 ≤ day ∧ day ≤ daysInMonth year month
deriving Repr, DecidableEq

namespace Date

def ofParts? (year : Int) (month day : Nat) : Option Date :=
  if h : (1 ≤ month ∧ month ≤ 12) ∧ 1 ≤ day ∧ day ≤ daysInMonth year month then
    some ⟨year, month, day, h.1, h.2⟩
  else none

/-- Days of the months of a year before this month. -/
def daysBeforeMonth (year : Int) : (month : Nat) → Nat
  | 0 | 1 => 0
  | month + 2 => daysBeforeMonth year (month + 1) + daysInMonth year (month + 1)

/-- The number of the day, counted from the first day of year 1. -/
def dayNumber (date : Date) : Int :=
  let past := date.year - 1
  365 * past + past / 4 - past / 100 + past / 400 + daysBeforeMonth date.year date.month +
    (date.day - 1 : Nat)

/-- Months since the beginning of year 0. -/
def monthNumber (date : Date) : Int := 12 * date.year + date.month

/-- Days from the second date to the first. -/
def daysBetween (a b : Date) : Int := a.dayNumber - b.dayNumber

/-- Whole months from the second date to the first. -/
def monthsBetween (a b : Date) : Int :=
  let months := a.monthNumber - b.monthNumber
  if 0 < months ∧ a.day < b.day then months - 1
  else if months < 0 ∧ b.day < a.day then months + 1
  else months

/-- Whole years from the second date to the first. -/
def yearsBetween (a b : Date) : Int := (a.monthsBetween b).tdiv 12

end Date

inductive Granularity
  | day
  | month
  | year
deriving Repr, DecidableEq

end OlapFormula
