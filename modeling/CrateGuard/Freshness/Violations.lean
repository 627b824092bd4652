import CrateGuard.Freshness.Outcome
import CrateGuard.Json.Display
import CrateGuard.Violation

/-! The violations among the outcomes of the freshness check: one for each outcome that counts
against the run, in order. -/

namespace CrateGuard.DependencyOutcome

def shown : Option Text → Text
  | some s => s
  | none => Json.null.text

def missingMessage (name : Text) : Option Text → Text
  | none | some [] => "crate '" ++ name ++ "' was not found in current Cargo graph"
  | some detail =>
    "crate '" ++ name ++ "' was not found in current Cargo graph (" ++ detail ++ ")"

/-- The violation that an outcome is, if it counts against the run. -/
def violation? (outcome : DependencyOutcome) : Option Violation :=
  let name := outcome.dependency.name
  if !outcome.isViolation then none
  else match outcome.freshness with
    | .missing => some ⟨.missingDependency, .str name, missingMessage name outcome.detail⟩
    | .fetchError =>
      some ⟨.fetchFailed, .str name,
        "failed to fetch latest version for '" ++ name ++ "' (" ++ shown outcome.detail ++ ")"⟩
    | _ =>
      some ⟨.outdatedDependency, .str name,
        name ++ " is outdated (" ++ shown outcome.current ++ " -> " ++ shown outcome.latest ++
          "); fail_on_update is enabled"⟩

def violations (outcomes : List DependencyOutcome) : List Violation :=
  outcomes.filterMap violation?

end CrateGuard.DependencyOutcome
