import CrateGuard.Files.Path
import CrateGuard.Json.Reader
import CrateGuard.Version.Basic

/-! Crashes: what ends a run without a verdict. They are kept apart from the faults of settings and
evidence, which a run reports and turns into a failing exit status. -/

namespace CrateGuard

/-- What ends a run without a verdict. -/
inductive Crash
  /-- A file is not UTF-8. -/
  | undecodable
  /-- A text without a UTF-8 form is written to a file or names one. -/
  | unencodable
  /-- A numeral is too long or not made of decimal digits. -/
  | unreadableNumeral
  /-- A JSON text is nested too deep. -/
  | tooDeep
  /-- A list or an object stands where a name or a member of a set has to stand. -/
  | unhashable
  /-- Versions that are not all texts are sorted or listed. -/
  | versionNotText
  /-- The source of a package is neither absent nor a text. -/
  | sourceNotText
  /-- A moment lies outside the calendar in universal time. -/
  | outsideCalendar
  /-- A path holds the character with code zero. -/
  | nulInPath
  /-- More directories are missing on a path than are made one inside the other. -/
  | pathTooDeep
  /-- A path can be read as an address, and its authority is not well formed. -/
  | malformedAuthority
  /-- The path of a settings file, or a name in it, is too long. -/
  | pathTooLong
  /-- The workspace is set to nothing at all. -/
  | noWorkspace
  /-- The address of the registry is set to nothing at all. -/
  | noRegistry
  deriving DecidableEq, Repr

/-- A fault of a version where no refusal is left: its numerals cannot be read. -/
def VersionFault.crash (_ : VersionFault) : Crash := .unreadableNumeral

def PathDefect.crash : PathDefect → Crash
  | .half => .unencodable
  | .nul => .nulInPath

end CrateGuard
