import CrateGuard.Files.Path
import CrateGuard.Json.Display
import CrateGuard.Json.Reader

/-! What can be wrong with a settings file, the allowlist policy or the watch list. -/

namespace CrateGuard

def maxReviewWindow : Int := 36500

inductive SettingsFault
  | missing
  | notJson (problem : Json.Problem) (position : Json.Position)
  | notObject
  | metadataNotObject
  | badWindow
  | allowNotList
  | entryNotObject (index : Nat)
  | entryWithoutId (index : Nat)
  | duplicateEntry (id : Text)
  | badReviewDate (index : Nat) (value : Json)
  | noDependencies
  | dependencyNotObject (index : Nat)
  | dependencyWithoutName (index : Nat)
  | failOnUpdateNotBoolean (index : Nat)

/-- The words for a fault of the file at a path, which is shown as given where its content is wrong
and in normal form where it cannot be read. -/
def SettingsFault.message (place : ShownPath) : SettingsFault → Text
  | .missing => "missing config at " ++ place.path.text
  | .notJson problem position =>
    place.path.text ++
      s!" is not valid JSON ({(Json.ReadFault.malformed problem position).message})"
  | .notObject => place.shown ++ ": top-level value must be an object"
  | .metadataNotObject => place.shown ++ ": metadata must be an object"
  | .badWindow =>
    place.shown ++
      s!": metadata.max_review_window_days must be an integer between 1 and {maxReviewWindow}"
  | .allowNotList => place.shown ++ ": allow must be a list"
  | .entryNotObject index => place.shown ++ s!": allow[{index}] must be an object"
  | .entryWithoutId index => place.shown ++ s!": allow[{index}].id must be a non-empty string"
  | .duplicateEntry id => place.shown ++ ": duplicate allowlist entry " ++ id
  | .badReviewDate index value =>
    place.shown ++ s!": allow[{index}].review_by must be YYYY-MM-DD, got " ++ value.literal
  | .noDependencies => "no dependencies configured in " ++ place.shown
  | .dependencyNotObject index => place.shown ++ s!": dependencies[{index}] must be an object"
  | .dependencyWithoutName index => place.shown ++ s!": dependencies[{index}] has no name"
  | .failOnUpdateNotBoolean index =>
    place.shown ++ s!": dependencies[{index}].fail_on_update must be true or false"

end CrateGuard
