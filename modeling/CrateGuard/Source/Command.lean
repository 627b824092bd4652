import CrateGuard.Json.Display
import CrateGuard.Run
import CrateGuard.Source.Fault
import CrateGuard.Text.Blank

/-! Output of commands. A command that exits with an error has failed, unless its output is wanted
even then and is not blank. -/

namespace CrateGuard

inductive CommandReply
  | finished (code : Int) (output errors : Text)
  | timedOut
  | failed (reason : Text)

/-- Cargo, as seen from here: the reply to the words of a command, if the program is there at
all. -/
abbrev Cargo := Option (List Text → CommandReply)

namespace CommandReply

def logSource : String := "dependency_gate.evidence"

def commandText (words : List Text) : Text :=
  Text.listed " " words

def timeoutReason (words : List Text) (timeout : Json) : Text :=
  "Command '" ++ (Json.arr (words.map .str)).literal ++ "' timed out after " ++ timeout.text ++
    " seconds"

def exitReason (code : Int) (errors : Text) : Text :=
  if (Text.strip errors).isEmpty then s!"exit status {code}" else Text.strip errors

def output (words : List Text) (timeout : Json) (wantedAnyway : Bool) :
    CommandReply → Except SourceFault Text
  | .timedOut => .error (.commandFailed (commandText words) (timeoutReason words timeout))
  | .failed reason => .error (.commandFailed (commandText words) reason)
  | .finished code output errors =>
    if code = 0 || wantedAnyway && !(Text.strip output).isEmpty then .ok output
    else .error (.commandFailed (commandText words) (exitReason code errors))

def run (cargo : Cargo) (root : Path) (words : List Text) (timeout : Json)
    (wantedAnyway : Bool) : Run (Except SourceFault Text) :=
  match cargo with
  | none => return .error (.noCommand (words.headD []))
  | some reply => do
    Run.log .info logSource ("Running " ++ commandText words ++ " in " ++ root.text)
    Run.noteCommand ⟨words, root, timeout⟩
    return (reply words).output words timeout wantedAnyway

end CommandReply

end CrateGuard
