import CrateGuard.Freshness.Check
import CrateGuard.Freshness.Violations
import CrateGuard.Gate.Artifacts
import CrateGuard.Gate.Audit
import CrateGuard.Release.Latest

/-! The watch gate. It passes if the watch list and the dependency graph can be read and no outcome
is a violation; in advisory mode violations are reported but do not fail it. Its artifacts have no
part in the verdict. -/

namespace CrateGuard

structure WatchJob where
  watchlist : ShownPath
  source : Source
  client : RegistryClient
  advisory : Bool
  summary : Option ShownPath
  tableDirectory : Option ShownPath
  now : Option Moment

/-- What a watch asks others for: the packages of the dependency graph, and the latest release of a
package. -/
structure WatchBackends where
  packages : FileTree → Run (Except SourceFault (List PackageRecord))
  latest : Text → Run Lookup

structure Findings where
  outcomes : List DependencyOutcome
  violations : List Violation

namespace WatchJob

/-- The watch list and the resolved versions. The graph is not asked for without a watch list. -/
def inputs (backends : WatchBackends) (files : FileTree) (job : WatchJob) :
    Run (Except InputFault (List Watched × Resolved)) := do
  match ← Watchlist.load files job.watchlist with
  | .error fault => return .error (.settings job.watchlist fault)
  | .ok watched =>
    match ← backends.packages files with
    | .error fault => return .error (.evidence fault)
    | .ok packages => return .ok (watched, ← Resolved.ofPackages packages)

def findings (backends : WatchBackends) (job : WatchJob) (watched : List Watched)
    (resolved : Resolved) : Run Findings := do
  let outcomes ← Freshness.check resolved backends.latest job.advisory watched
  return ⟨outcomes, DependencyOutcome.violations outcomes⟩

/-- The printed report. Its lines are cut after the header and as many rows as there are outcomes:
those above the cut go to the output, and those below it, if there are violations, to the error
stream. -/
def report (advisory : Bool) (found : Findings) : List Message :=
  let lines := Report.watchLines advisory found.outcomes found.violations
  let rowCount := found.outcomes.length + 1
  (lines.take rowCount).map .out ++
    (lines.drop rowCount).map (if found.violations.isEmpty then .out else .err)

def verdict (advisory : Bool) (found : Findings) : Verdict :=
  if found.violations.isEmpty || advisory then .pass else .fail

def moment (world : World) (job : WatchJob) : Except Crash Moment :=
  match job.now with
  | some now => .ok now
  | none => world.now

def leaveSummary (world : World) (job : WatchJob) (found : Findings) : Act Unit :=
  match job.summary with
  | none => return ()
  | some place => do
    let moment ← Act.ofRun (Run.ofExcept (job.moment world))
    Artifact.appendSummary place
      (Report.summary? job.advisory found.outcomes found.violations moment)

def leaveTable (world : World) (job : WatchJob) (found : Findings) : Act Unit :=
  match job.tableDirectory with
  | none => return ()
  | some directory => Artifact.writeTable world directory (TableRow.table found.outcomes)

def runWith (backends : WatchBackends) (world : World) (job : WatchJob) : Act Verdict := do
  match ← Act.reading fun files => job.inputs backends files with
  | .error fault => Act.ofRun (fault.report watchTool)
  | .ok (watched, resolved) =>
    let found ← Act.ofRun (job.findings backends watched resolved)
    Act.say (report job.advisory found)
    job.leaveSummary world found
    job.leaveTable world found
    return verdict job.advisory found

def lookup (world : World) (job : WatchJob) (name : Text) : Run Lookup := do
  return Lookup.ofFetched (← LatestRelease.fetch world.registry job.client name)

def backends (world : World) (job : WatchJob) : WatchBackends :=
  ⟨fun files => job.source.packages files world.cargo, job.lookup world⟩

def run (world : World) (job : WatchJob) : Act Verdict :=
  job.runWith (job.backends world) world

end WatchJob

end CrateGuard
