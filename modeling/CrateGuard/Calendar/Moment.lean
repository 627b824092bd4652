import CrateGuard.Calendar.DateText

/-! Moments: a day, a time of that day and the offset of its clock from universal time. A clock
without offset shows universal time. Timestamps are written in universal time with whole
milliseconds, the rest being cut off. -/

namespace CrateGuard

/-- A reading of a clock. -/
structure Moment where
  date : Date
  /-- Microseconds since midnight. -/
  sinceMidnight : Nat
  /-- Seconds by which the clock is ahead of universal time. -/
  offset : Option Int
  deriving DecidableEq, Inhabited

namespace Moment

def microsecondsPerDay : Nat := 86400 * 1000000

/-- Microseconds from the midnight that begins day zero, in universal time. -/
def instant (m : Moment) : Int :=
  (m.date.dayNumber : Int) * microsecondsPerDay + m.sinceMidnight - m.offset.getD 0 * 1000000

/-- The reading of a clock that shows universal time, if it is in the calendar. -/
def utc? (m : Moment) : Option (Date × Nat) :=
  (Date.ofDayNumber? (m.instant / microsecondsPerDay)).map fun date =>
    (date, (m.instant % microsecondsPerDay).toNat)

def timestampText (date : Date) (sinceMidnight : Nat) : Text :=
  let milliseconds := sinceMidnight / 1000
  let seconds := milliseconds / 1000
  date.text ++ "T" ++ Text.padded 2 (seconds / 3600) ++ ":" ++ Text.padded 2 (seconds / 60 % 60) ++
    ":" ++ Text.padded 2 (seconds % 60) ++ "." ++ Text.padded 3 (milliseconds % 1000) ++ "Z"

def timestamp? (m : Moment) : Option Text :=
  m.utc?.map fun reading => timestampText reading.1 reading.2

def epochDayNumber : Nat := 719163

def ofMicroseconds? (sinceEpoch : Int) : Option Moment :=
  (Date.ofDayNumber? (epochDayNumber + sinceEpoch / microsecondsPerDay)).map fun date =>
    ⟨date, (sinceEpoch % microsecondsPerDay).toNat, some 0⟩

end Moment

end CrateGuard
