import CrateGuard.Calendar.Moment
import CrateGuard.Release.Client
import CrateGuard.Source.Command

/-! The world around a run, apart from the files: the clock, the registry, cargo, the variable that
names the usual summary file, the home directories of users and the writer of tables. -/

namespace CrateGuard

structure World where
  clock : Moment
  registry : Registry
  cargo : Cargo
  summaryVariable : Option Text
  /-- The home directory of a user, if it is known; the present user has the empty name. -/
  home? : Text → Option Text
  /-- The code points for which the writer of tables quotes a field without need. -/
  quotesToo : CodePoint → Bool

namespace World

/-- The present moment, if it lies in the calendar in universal time. -/
def now (world : World) : Except Crash Moment :=
  if world.clock.utc?.isSome then .ok world.clock else .error .outsideCalendar

def today (world : World) : Except Crash Date :=
  match world.clock.utc? with
  | some (date, _) => .ok date
  | none => .error .outsideCalendar

/-- A written path in which a tilde in front, with or without the name of a user, stands for a home
directory, if that is known. -/
def expandHome (world : World) (s : Text) : Text :=
  match s with
  | .char '~' :: rest =>
    match world.home? (rest.takeWhile (· != CodePoint.char '/')) with
    | some home =>
      Text.trimEndOf (· == '/') home ++ rest.dropWhile (· != CodePoint.char '/')
    | none => s
  | _ => s

end World

inductive Verdict
  | pass
  | fail
  deriving DecidableEq, Repr

def Verdict.exitCode : Verdict → Nat
  | .pass => 0
  | .fail => 1

end CrateGuard
