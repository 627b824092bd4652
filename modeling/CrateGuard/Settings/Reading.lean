import CrateGuard.Files.Tree
import CrateGuard.Run
import CrateGuard.Settings.Fault
import CrateGuard.Text.Encoded
import CrateGuard.Text.Newline

/-! Reading JSON files. A text that is not JSON is a fault of the file; one that is not UTF-8, holds
a numeral that is too long or is nested too deep is a crash. -/

namespace CrateGuard

def Json.decode (limit : Nat) (s : Text) :
    Except Crash (Except (Json.Problem × Json.Position) Json) :=
  match Json.read limit s with
  | .ok value => .ok (.ok value)
  | .error (.malformed problem position) => .ok (.error (problem, position))
  | .error (.longNumeral _) => .error .unreadableNumeral
  | .error (.tooDeep _) => .error .tooDeep

/-- The deepest nesting that is read from a file. A reader of settings or of evidence opens the
file, and is six calls away from its text. -/
def Json.nestingLimit : Nat := levelsWithin 6

def textOfBytes (bytes : ByteArray) : Except Crash Text :=
  match Text.ofBytes? bytes with
  | some s => .ok (Text.unifyNewlines s)
  | none => .error .undecodable

namespace Settings

def logSource : String := "dependency_gate.config"

/-- The bytes of the file at a path, if there is one. At a path with a defect there is none, but one
that is too long is a crash. -/
def bytesOfFile? (files : FileTree) (path : Path) : Except Crash (Option ByteArray) :=
  if path.defect?.isSome then .ok none
  else match files.read path with
    | .ok bytes => .ok (some bytes)
    | .error .nameTooLong => .error .pathTooLong
    | .error _ => .ok none

def readFile (files : FileTree) (path : Path) : Run (Except SettingsFault Json) := do
  match ← Run.ofExcept (bytesOfFile? files path) with
  | none => return .error .missing
  | some bytes =>
    Run.log .debug logSource ("Loading " ++ path.text)
    let s ← Run.ofExcept (textOfBytes bytes)
    let value ← Run.ofExcept (Json.decode Json.nestingLimit s)
    return value.mapError fun wrong => .notJson wrong.1 wrong.2

/-- Loads what the value in a settings file describes, and logs how much that is. -/
def load {α : Type} (ofJson : Json → Except SettingsFault α) (amount : α → String)
    (files : FileTree) (place : ShownPath) : Run (Except SettingsFault α) := do
  match ← readFile files place.path with
  | .error fault => return .error fault
  | .ok value =>
    match ofJson value with
    | .error fault => return .error fault
    | .ok settings =>
      Run.log .info logSource (s!"Loaded {amount settings} from " ++ place.shown)
      return .ok settings

end Settings

end CrateGuard
