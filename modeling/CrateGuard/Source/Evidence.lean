import CrateGuard.Advisory.Report
import CrateGuard.Graph.Package
import CrateGuard.Settings.Reading
import CrateGuard.Source.Command

/-! Sources of evidence. The scan output and the dependency graph come from cargo, run in the
workspace, or from files that hold what cargo printed before. -/

namespace CrateGuard

inductive EvidenceKind
  | advisories
  | graph
  deriving DecidableEq, Repr

namespace EvidenceKind

def label : EvidenceKind → String
  | .advisories => "audit report"
  | .graph => "dependency graph"

def arguments : EvidenceKind → List Text
  | .advisories => ["audit", "--json"]
  | .graph => ["metadata", "--format-version", "1", "--locked"]

def origin (kind : EvidenceKind) : Text :=
  CommandReply.commandText ("cargo" :: kind.arguments)

/-- A scan that finds vulnerabilities exits with an error but still prints them. -/
def wantedAnyway : EvidenceKind → Bool
  | .advisories => true
  | .graph => false

end EvidenceKind

inductive Source
  | cargo (root : Path) (program : Text) (timeout : Json)
  | files (advisories graph : Option Path)

namespace Source

def usualProgram : Text := "cargo"

/-- Evidence that cargo gives when it is run in a workspace, without a waiting limit. -/
def ofWorkspace (root : Path) : Source := .cargo root usualProgram .null

/-- The deepest nesting that is read from what a command prints, which is one call less away than
the text of a file. -/
def outputLimit : Nat := Json.levelsWithin 5

def decode (limit : Nat) (origin s : Text) : Run (Except SourceFault Json) := do
  let value ← Run.ofExcept (Json.decode limit s)
  return value.mapError fun wrong => .notJson origin wrong.1 wrong.2

def textOfFile (files : FileTree) (kind : EvidenceKind) (path : Path) :
    Run (Except SourceFault Text) :=
  match path.defect? with
  | some defect => Run.crash defect.crash
  | none =>
    match files.read path with
    | .error fault => return .error (.unreadableFile kind.label ⟨fault, path⟩)
    | .ok bytes => do return .ok (← Run.ofExcept (textOfBytes bytes))

def valueOfFile (files : FileTree) (kind : EvidenceKind) :
    Option Path → Run (Except SourceFault Json)
  | none => return .error (.noFile kind.label)
  | some path => do
    match ← textOfFile files kind path with
    | .error fault => return .error fault
    | .ok s => decode Json.nestingLimit path.text s

def valueOfCommand (cargo : Cargo) (root : Path) (words : List Text) (timeout : Json)
    (kind : EvidenceKind) : Run (Except SourceFault Json) := do
  match ← CommandReply.run cargo root words timeout kind.wantedAnyway with
  | .error fault => return .error fault
  | .ok s => decode outputLimit kind.origin s

def value (files : FileTree) (cargo : Cargo) (source : Source) (kind : EvidenceKind) :
    Run (Except SourceFault Json) :=
  match source with
  | .cargo root name timeout =>
    valueOfCommand cargo root (name :: kind.arguments) timeout kind
  | .files advisories graph =>
    valueOfFile files kind (match kind with | .advisories => advisories | .graph => graph)

def advisoryReport (files : FileTree) (cargo : Cargo) (source : Source) :
    Run (Except SourceFault AdvisoryReport) := do
  return (← source.value files cargo .advisories) >>= AdvisoryReport.ofJson

def packages (files : FileTree) (cargo : Cargo) (source : Source) :
    Run (Except SourceFault (List PackageRecord)) := do
  return (← source.value files cargo .graph) >>= PackageRecord.ofGraph

end Source

end CrateGuard
