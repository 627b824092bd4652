import CrateGuard.Json.Value
import CrateGuard.Text.Quoted

/-! Answers of a lookup of the latest release. A lookup can fail in the way that lookups do, and
then gives its reason, or in any other way. -/

namespace CrateGuard

inductive FailureKind
  /-- The way to the registry failed. -/
  | transport (name : String)
  /-- A value could not be read. -/
  | value
  /-- A text has no UTF-8 form. -/
  | encoding
  /-- A key was not there. -/
  | key
  /-- A text was nested too deep. -/
  | nesting
  | other (name : String)
  deriving DecidableEq, Repr

def FailureKind.name : FailureKind → String
  | .transport name => name
  | .value => "ValueError"
  | .encoding => "UnicodeEncodeError"
  | .key => "KeyError"
  | .nesting => "RecursionError"
  | .other name => name

structure Failure where
  kind : FailureKind
  message : Text
  deriving DecidableEq, Repr

/-- The text of a failure. A missing key is shown quoted. -/
def Failure.text (failure : Failure) : Text :=
  if failure.kind = .key then Text.quoted failure.message else failure.message

/-- What a lookup of the latest release gives. -/
inductive Lookup
  | found (version : Json)
  | refused (reason : Text)
  | broken (failure : Failure)

end CrateGuard
