import CrateGuard.Freshness.Lookup
import CrateGuard.Freshness.Outcome
import CrateGuard.Graph.Resolution
import CrateGuard.Version.Ranking

/-! The freshness check. For each watched package the highest resolved version is compared with the
latest release, which is looked up only if there is one to compare it with. A failed lookup, or an
answer that is no version, is an outcome of that package alone. -/

namespace CrateGuard.Freshness

def logSource : String := "dependency_gate.watcher"

/-- A set of versions as texts in the order of their code points. All of them have to be texts. -/
def sortedTexts (versions : List Json) : Except Crash (List Text) :=
  if (Version.textsOf versions).length = versions.length then
    .ok ((Version.textsOf versions).mergeSort Text.isAtMost)
  else .error .versionNotText

def orCrash {α : Type} (result : Except VersionFault α) : Except Crash α :=
  result.mapError VersionFault.crash

def missingOutcome (dependency : Watched) (present : List Text) : DependencyOutcome :=
  ⟨dependency, .missing, none, none,
    if present.isEmpty then none
    else some ("no comparable version among " ++ Text.listed ", " present)⟩

def unfetched (dependency : Watched) (current detail : Text) : DependencyOutcome :=
  ⟨dependency, .fetchError, some current, none, some detail⟩

def ofOrder (dependency : Watched) (advisory : Bool) : Ordering → Freshness
  | .gt => if dependency.failOnUpdate && !advisory then .outdatedFail else .outdatedWarn
  | _ => .upToDate

def judge (dependency : Watched) (advisory : Bool) (current : Text) :
    Lookup → Run DependencyOutcome
  | .refused reason => do
    Run.log .warning logSource
      ("Failed to fetch latest version for " ++ dependency.name ++ ": " ++ reason)
    return unfetched dependency current reason
  | .broken failure => do
    Run.log .warning logSource
      ("Unexpected error fetching latest version for " ++ dependency.name ++ ": " ++ failure.text)
    return unfetched dependency current (failure.kind.name ++ ": " ++ failure.text)
  | .found version => do
    match ← Run.ofExcept (orCrash (Version.tryOfJson version)) with
    | none =>
      Run.log .warning logSource
        ("Registry returned unparsable version " ++ version.literal ++ " for " ++ dependency.name)
      return unfetched dependency current ("unparsable latest version " ++ version.literal)
    | some _ =>
      let order ← Run.ofExcept (orCrash (Version.orderTexts version.text current))
      return ⟨dependency, ofOrder dependency advisory order, some current, some version.text,
        none⟩

def checkOne (resolved : Resolved) (lookup : Text → Run Lookup) (advisory : Bool)
    (dependency : Watched) : Run DependencyOutcome := do
  let present ← Run.ofExcept (sortedTexts (resolved.versions dependency.name))
  match ← Run.ofExcept (orCrash (Version.highest present)) with
  | none => return missingOutcome dependency present
  | some current =>
    Run.noteLookup dependency.name
    judge dependency advisory current (← lookup dependency.name)

/-- The outcomes for a watch list, in its order and with one lookup at a time. -/
def check (resolved : Resolved) (lookup : Text → Run Lookup) (advisory : Bool) :
    List Watched → Run (List DependencyOutcome)
  | [] => return []
  | dependency :: rest => do
    let outcome ← checkOne resolved lookup advisory dependency
    let outcomes ← check resolved lookup advisory rest
    return outcome :: outcomes

end CrateGuard.Freshness
