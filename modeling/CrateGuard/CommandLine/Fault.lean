import CrateGuard.CommandLine.Screen
import CrateGuard.Text.Quoted

/-! What can be wrong with a command line. -/

namespace CrateGuard.CommandLine

inductive UsageFault
  | ambiguous (word : Text) (candidates : List Choice)
  | missingValue (setting : Setting)
  | ignoredValue (flag : Flag) (value : Text)
  | notNumber (setting : Setting) (value : Text)
  | unknownCommand (name : Text)
  | noCommand
  | unrecognized (words : List Text)
  | badToday

def UsageFault.message : UsageFault → Text
  | .ambiguous word candidates =>
    "ambiguous option: " ++ word ++ " could match " ++
      ", ".intercalate (candidates.map Choice.long)
  | .missingValue setting => s!"argument {setting.long}: expected one argument"
  | .ignoredValue flag value =>
    s!"argument {flag.label}: ignored explicit argument " ++ Text.quoted value
  | .notNumber setting value =>
    s!"argument {setting.long}: invalid float value: " ++ Text.quoted value
  | .unknownCommand name =>
    "argument command: invalid choice: " ++ Text.quoted name ++ " (choose from " ++
      Text.listed ", " (Command.all.map fun command => Text.quoted command.name) ++ ")"
  | .noCommand => "the following arguments are required: command"
  | .unrecognized words => "unrecognized arguments: " ++ Text.listed " " words
  | .badToday => "Invalid --today format. Use YYYY-MM-DD"

end CrateGuard.CommandLine
