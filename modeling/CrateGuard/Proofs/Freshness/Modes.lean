import CrateGuard.Proofs.Freshness.Check

/-! The two modes of the freshness check. In advisory mode the check asks the same questions and
says the same of every package, except that an outcome which fails the run in strict mode only
warns. That makes no difference to the violations. -/

namespace CrateGuard

def Freshness.downgraded : Freshness → Freshness
  | .outdatedFail => .outdatedWarn
  | freshness => freshness

namespace DependencyOutcome

def downgraded (outcome : DependencyOutcome) : DependencyOutcome :=
  { outcome with freshness := outcome.freshness.downgraded }

private theorem violation?_downgraded (outcome : DependencyOutcome) :
    outcome.downgraded.violation? = outcome.violation? := by
  cases outcome with
  | mk dependency freshness current latest detail => cases freshness <;> rfl

theorem violations_map_downgraded (outcomes : List DependencyOutcome) :
    violations (outcomes.map downgraded) = violations outcomes := by
  rw [violations, List.filterMap_map]
  exact congrArg (List.filterMap · outcomes) (funext violation?_downgraded)

end DependencyOutcome

namespace Freshness

private theorem ofOrder_advisory (dependency : Watched) (order : Ordering) :
    ofOrder dependency true order = (ofOrder dependency false order).downgraded := by
  cases order with
  | lt => rfl
  | eq => rfl
  | gt => cases h : dependency.failOnUpdate <;> simp [ofOrder, h, downgraded]

private theorem judge_advisory (dependency : Watched) (current : Text) (answer : Lookup) :
    judge dependency true current answer =
      (judge dependency false current answer).mapResult DependencyOutcome.downgraded := by
  cases answer with
  | refused reason => rfl
  | broken failure => rfl
  | found version =>
    rw [judge, judge]
    apply Run.bind_eq_mapResult
    intro parsed
    cases parsed with
    | none => rfl
    | some v =>
      apply Run.bind_eq_mapResult
      intro order
      rw [ofOrder_advisory]
      rfl

private theorem checkOne_advisory (resolved : Resolved) (lookup : Text → Run Lookup)
    (dependency : Watched) :
    checkOne resolved lookup true dependency =
      (checkOne resolved lookup false dependency).mapResult DependencyOutcome.downgraded := by
  rw [checkOne, checkOne]
  apply Run.bind_eq_mapResult
  intro present
  apply Run.bind_eq_mapResult
  intro best
  cases best with
  | none => rfl
  | some current =>
    apply Run.bind_eq_mapResult
    intro _
    apply Run.bind_eq_mapResult
    intro answer
    exact judge_advisory dependency current answer

/-- In advisory mode a check leaves the trace that it leaves in strict mode, and its outcomes are
the same but for failing the run. -/
theorem checkEach_advisory (resolved : Resolved) (entries : List (Watched × (Text → Run Lookup))) :
    checkEach resolved true entries =
      (checkEach resolved false entries).mapResult (List.map DependencyOutcome.downgraded) := by
  induction entries with
  | nil => rfl
  | cons entry rest ih =>
    rw [checkEach, checkEach, checkOne_advisory, Run.bind_mapResult]
    apply Run.bind_eq_mapResult
    intro outcome
    rw [ih, Run.bind_mapResult]
    apply Run.bind_eq_mapResult
    intro outcomes
    rfl

end Freshness

end CrateGuard
