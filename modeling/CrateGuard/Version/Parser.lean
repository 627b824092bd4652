import CrateGuard.Json.Value
import CrateGuard.Text.Quoted
import CrateGuard.Version.Basic

/-! Reading versions. A version is `MAJOR.MINOR.PATCH`, then optionally a hyphen and prerelease
identifiers separated by points, then optionally a plus and build metadata without a line feed. The
numbers are rows of ASCII digits, with leading zeros if they like; the identifiers are not empty and
hold ASCII letters, digits and hyphens. -/

namespace CrateGuard

def VersionRefusal.message : VersionRefusal → Text
  | .notText kind => s!"version must be a string, got {kind}"
  | .malformed text => "invalid version: " ++ Text.quoted text
  | .emptyIdentifier text => "empty prerelease identifier in " ++ Text.quoted text

namespace Version

structure Shape where
  major : Text
  minor : Text
  patch : Text
  /-- The prerelease part without its hyphen, if there is one. -/
  label : Option Text

def isLabelPoint (c : CodePoint) : Bool :=
  c.isAlphanum || c == '-' || c == '.'

def isBuildOrEnd : Text → Bool
  | [] => true
  | .char '+' :: build => !build.contains (.char '\n')
  | _ => false

def takeNumeral (s : Text) : Option (Text × Text) :=
  let digits := s.takeWhile Text.isAsciiDigit
  if digits.isEmpty then none else some (digits, s.dropWhile Text.isAsciiDigit)

def takeDotted (s : Text) : Option (Text × Text) :=
  match takeNumeral s with
  | some (digits, .char '.' :: rest) => some (digits, rest)
  | _ => none

def labelOf (s : Text) : Option (Option Text) :=
  match s with
  | .char '-' :: rest =>
    let label := rest.takeWhile isLabelPoint
    if !label.isEmpty && isBuildOrEnd (rest.dropWhile isLabelPoint) then some (some label) else none
  | _ => if isBuildOrEnd s then some none else none

def shape? (s : Text) : Option Shape := do
  let (major, afterMajor) ← takeDotted s
  let (minor, afterMinor) ← takeDotted afterMajor
  let (patch, afterPatch) ← takeNumeral afterMinor
  let label ← labelOf afterPatch
  return ⟨major, minor, patch, label⟩

def identifiersOf : Option Text → List Text
  | none => []
  | some label => Text.split '.' label

def parse (s : Text) : Except VersionFault Version :=
  match shape? s with
  | none => .error (.refused (.malformed s))
  | some shape =>
    let identifiers := identifiersOf shape.label
    if identifiers.any List.isEmpty then .error (.refused (.emptyIdentifier s))
    else if [shape.major, shape.minor, shape.patch].any fun run => Text.digitLimit < run.length then
      .error .longNumeral
    else .ok ⟨Text.asciiValue shape.major, Text.asciiValue shape.minor,
      Text.asciiValue shape.patch, identifiers⟩

def ofJson : Json → Except VersionFault Version
  | .str s => parse s
  | value => .error (.refused (.notText value.kindName))

/-- Nothing where a version is refused; a numeral that is too long stays a fault. -/
def orNothing : Except VersionFault Version → Except VersionFault (Option Version)
  | .ok v => .ok (some v)
  | .error (.refused _) => .ok none
  | .error fault => .error fault

/-- The version that a text writes, or nothing where it is refused. -/
def tryParse (s : Text) : Except VersionFault (Option Version) :=
  orNothing (parse s)

def tryOfJson (value : Json) : Except VersionFault (Option Version) :=
  orNothing (ofJson value)

end Version

end CrateGuard
