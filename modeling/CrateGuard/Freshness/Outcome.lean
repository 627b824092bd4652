import CrateGuard.Settings.Watchlist

/-! Outcomes of the freshness check, one for each watched package. An outdated package fails the run
only if its entry asks for that, and then in both modes: the mode of a run changes the tag of an
outcome, not whether the outcome is a violation. -/

namespace CrateGuard

inductive Freshness
  | upToDate
  | outdatedWarn
  | outdatedFail
  | missing
  | fetchError
  deriving DecidableEq, Repr

namespace Freshness

def all : List Freshness := [.upToDate, .outdatedWarn, .outdatedFail, .missing, .fetchError]

def tag : Freshness → String
  | .upToDate => "up-to-date"
  | .outdatedWarn => "outdated-warn"
  | .outdatedFail => "outdated-fail"
  | .missing => "missing"
  | .fetchError => "fetch-error"

def ofTag? (tag : Text) : Option Freshness :=
  all.find? fun freshness => Text.ofString freshness.tag == tag

def isOutdated : Freshness → Bool
  | .outdatedWarn | .outdatedFail => true
  | _ => false

def isUnknown : Freshness → Bool
  | .missing | .fetchError => true
  | _ => false

end Freshness

structure DependencyOutcome where
  dependency : Watched
  freshness : Freshness
  current : Option Text
  latest : Option Text
  detail : Option Text
  deriving DecidableEq, Repr

namespace DependencyOutcome

def isOutdated (outcome : DependencyOutcome) : Bool :=
  outcome.freshness.isOutdated

def isViolation (outcome : DependencyOutcome) : Bool :=
  outcome.freshness.isUnknown || outcome.isOutdated && outcome.dependency.failOnUpdate

end DependencyOutcome

end CrateGuard
