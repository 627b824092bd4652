import CrateGuard.Settings.Reading

/-! The watch list: the packages whose latest release is compared with the resolved versions. Order
and repetitions are kept. -/

namespace CrateGuard

structure Watched where
  name : Text
  group : Text
  failOnUpdate : Bool
  deriving DecidableEq, Repr

namespace Watchlist

def unknownGroup : String := "unknown"

def failOnUpdate (index : Nat) : Option Json → Except SettingsFault Bool
  | none => .ok false
  | some (.bool b) => .ok b
  | some _ => .error (.failOnUpdateNotBoolean index)

/-- One watched package. A group that is not filled stands for the unknown one. -/
def readDependency (index : Nat) : Json → Except SettingsFault Watched
  | .obj fields =>
    match Json.field fields "name" with
    | .str name =>
      if name = "" then .error (.dependencyWithoutName index)
      else (failOnUpdate index (Json.field? fields "fail_on_update")).map fun fail =>
        ⟨name, ((Json.field fields "group").orElse (.str unknownGroup)).text, fail⟩
    | _ => .error (.dependencyWithoutName index)
  | _ => .error (.dependencyNotObject index)

def ofJson : Json → Except SettingsFault (List Watched)
  | .obj fields =>
    match Json.field fields "dependencies" with
    | .arr (first :: rest) => Json.readEach readDependency 0 (first :: rest)
    | _ => .error .noDependencies
  | _ => .error .notObject

def usualPlace : List Text := ["security", "dependency-watch.json"]

def load (files : FileTree) (place : ShownPath) :
    Run (Except SettingsFault (List Watched)) :=
  Settings.load ofJson (fun watched => s!"{watched.length} watched dependencies") files place

end Watchlist

end CrateGuard
