import CrateGuard.Calendar.Date

/-! Spans of whole days, and the days that lie a span away. A number of days overflows if it does
not fit into 32 bits, if it is more than a span may have, or if it leads out of the calendar. -/

namespace CrateGuard

inductive DayOverflow
  /-- The number of days does not fit into 32 bits. -/
  | tooWide
  /-- No span has so many days. -/
  | tooLong
  /-- The calendar has no such day. -/
  | outsideCalendar
  deriving DecidableEq, Repr

def longestSpan : Nat := 999999999

structure DaySpan where
  days : Int
  inRange : days.natAbs ≤ longestSpan

def DaySpan.ofDays (days : Int) : Except DayOverflow DaySpan :=
  if -2147483648 ≤ days ∧ days ≤ 2147483647 then
    if h : days.natAbs ≤ longestSpan then .ok ⟨days, h⟩ else .error .tooLong
  else .error .tooWide

namespace Date

def shift (d : Date) (span : DaySpan) : Except DayOverflow Date :=
  match ofDayNumber? (d.dayNumber + span.days) with
  | some shifted => .ok shifted
  | none => .error .outsideCalendar

def shiftDays (d : Date) (days : Int) : Except DayOverflow Date := do
  let span ← DaySpan.ofDays days
  d.shift span

end Date

end CrateGuard
