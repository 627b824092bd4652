/-! Days of the Gregorian calendar in the years 1 to 9999. Day numbers count from 1 January of year
1, which is day one, so that adding days is adding numbers. -/

namespace CrateGuard

def isLeapYear (year : Nat) : Bool :=
  year % 4 == 0 && (year % 100 != 0 || year % 400 == 0)

def daysInMonth (year month : Nat) : Nat :=
  if month = 2 then (if isLeapYear year then 29 else 28)
  else if month = 4 || month = 6 || month = 9 || month = 11 then 30
  else 31

def isCalendarDay (year month day : Nat) : Bool :=
  1 ≤ year && year ≤ 9999 && 1 ≤ month && month ≤ 12 && 1 ≤ day &&
    day ≤ daysInMonth year month

structure Date where
  year : Nat
  month : Nat
  day : Nat
  valid : isCalendarDay year month day = true
  deriving DecidableEq

namespace Date

def of? (year month day : Nat) : Option Date :=
  if h : isCalendarDay year month day = true then some ⟨year, month, day, h⟩ else none

def first : Date := ⟨1, 1, 1, by decide⟩

def last : Date := ⟨9999, 12, 31, by decide⟩

instance : Inhabited Date := ⟨first⟩

def daysBeforeYear (year : Nat) : Nat :=
  let passed := year - 1
  passed * 365 + passed / 4 - passed / 100 + passed / 400

def daysBeforeMonth (year : Nat) : Nat → Nat
  | 0 => 0
  | 1 => 0
  | month + 1 => daysBeforeMonth year month + daysInMonth year month

/-- The number of a day, the first day of the calendar being day one. -/
def dayNumber (d : Date) : Nat :=
  daysBeforeYear d.year + daysBeforeMonth d.year d.month + d.day

/-- The year in which the day of a number lies: four hundred years have 146097 days, so the guess is
off by one year at most. -/
def yearOfDayNumber (number : Nat) : Nat :=
  let guess := number * 400 / 146097 + 1
  if daysBeforeYear guess < number then
    if daysBeforeYear (guess + 1) < number then guess + 1 else guess
  else guess - 1

/-- Month and day of the given day of a year, searched in the given number of months. -/
def monthAndDay (year : Nat) : (months month day : Nat) → Nat × Nat
  | 0, month, day => (month, day)
  | months + 1, month, day =>
    if day ≤ daysInMonth year month then (month, day)
    else monthAndDay year months (month + 1) (day - daysInMonth year month)

def ofDayNumber? (number : Int) : Option Date :=
  let n := number.toNat
  let year := yearOfDayNumber n
  let (month, day) := monthAndDay year 11 1 (n - daysBeforeYear year)
  if 1 ≤ number then of? year month day else none

def isBefore (a b : Date) : Bool :=
  a.dayNumber < b.dayNumber

end Date

end CrateGuard
