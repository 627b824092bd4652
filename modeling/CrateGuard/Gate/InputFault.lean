import CrateGuard.Gate.World
import CrateGuard.Settings.Fault

/-! Inputs that a gate cannot use. They fail it with one line on the error stream and nothing
else. -/

namespace CrateGuard

inductive InputFault
  | settings (place : ShownPath) (fault : SettingsFault)
  | evidence (fault : SourceFault)

def InputFault.message : InputFault → Text
  | .settings place fault => fault.message place
  | .evidence fault => fault.message

def InputFault.report (tool : String) (fault : InputFault) : Run Verdict := do
  Run.say [.err (tool ++ ": " ++ fault.message)]
  return .fail

end CrateGuard
