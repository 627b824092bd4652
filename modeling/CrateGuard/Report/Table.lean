import CrateGuard.Freshness.Outcome

/-! The table of outcomes: one row for each watched package, with sentinels where a version is
absent. A version that is an empty text counts as absent. -/

namespace CrateGuard

structure TableRow where
  name : Text
  group : Text
  current : Text
  latest : Text
  outcome : Text
  deriving DecidableEq, Repr

namespace TableRow

def columns : List Text := ["name", "group", "current", "latest", "outcome"]

def cells (row : TableRow) : List Text :=
  [row.name, row.group, row.current, row.latest, row.outcome]

def notFound : Text := "not-found"

def notApplicable : Text := "n/a"

def notFetched : Text := "fetch-error"

def versionOr (sentinel : Text) : Option Text → Text
  | none | some [] => sentinel
  | some version => version

def versionCells (outcome : DependencyOutcome) : Text × Text :=
  match outcome.freshness with
  | .missing => (notFound, notApplicable)
  | .fetchError => (versionOr notFound outcome.current, notFetched)
  | _ => (versionOr notFound outcome.current, versionOr notApplicable outcome.latest)

def ofOutcome (outcome : DependencyOutcome) : TableRow :=
  let (current, latest) := versionCells outcome
  ⟨outcome.dependency.name, outcome.dependency.group, current, latest, outcome.freshness.tag⟩

def table (outcomes : List DependencyOutcome) : List TableRow :=
  outcomes.map ofOutcome

end TableRow

end CrateGuard
