import CrateGuard.Calendar.Span
import CrateGuard.Json.Value

/-! Review deadlines. An exception may be granted up to the end of the review window; a window that
overflows, at either end, reaches to the last day of the calendar. -/

namespace CrateGuard

/-- The latest day up to which an exception may be granted. -/
def reviewDeadline (today : Date) (window : Int) : Date :=
  match today.shiftDays window with
  | .ok deadline => deadline
  | .error _ => Date.last

inductive WindowFault
  | notNumber
  | notNumeral
  deriving DecidableEq, Repr

/-- The whole number of days that a value gives, a fraction being cut off; none if it is
infinite. -/
def windowOf : Json → Except WindowFault (Option Int)
  | .bool b => .ok (some (if b then 1 else 0))
  | .int n => .ok (some n)
  | .float .nan => .error .notNumeral
  | .float x => .ok x.truncate?
  | .str s => ((Text.readInteger s).map some).mapError fun _ => .notNumeral
  | .null | .arr _ | .obj _ => .error .notNumber

def reviewDeadlineOf (today : Date) (window : Json) : Except WindowFault Date :=
  (windowOf window).map fun
    | some days => reviewDeadline today days
    | none => Date.last

end CrateGuard
