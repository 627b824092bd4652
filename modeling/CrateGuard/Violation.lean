import CrateGuard.Json.Value

/-! Violations: what a run finds against the policy or the watch list. -/

namespace CrateGuard

inductive ViolationKind
  | vulnerability
  | missingAdvisoryId
  | unreviewedAdvisory
  | missingReviewDate
  | reviewWindowExceeded
  | exceptionExpired
  | staleAllowlistEntry
  | outdatedDependency
  | missingDependency
  | fetchFailed
  deriving DecidableEq, Repr

namespace ViolationKind

def all : List ViolationKind :=
  [.vulnerability, .missingAdvisoryId, .unreviewedAdvisory, .missingReviewDate,
    .reviewWindowExceeded, .exceptionExpired, .staleAllowlistEntry, .outdatedDependency,
    .missingDependency, .fetchFailed]

def tag : ViolationKind → String
  | .vulnerability => "vulnerability"
  | .missingAdvisoryId => "missing-advisory-id"
  | .unreviewedAdvisory => "unreviewed-advisory"
  | .missingReviewDate => "missing-review-date"
  | .reviewWindowExceeded => "review-window-exceeded"
  | .exceptionExpired => "exception-expired"
  | .staleAllowlistEntry => "stale-allowlist-entry"
  | .outdatedDependency => "outdated-dependency"
  | .missingDependency => "missing-dependency"
  | .fetchFailed => "fetch-failed"

def ofTag? (tag : Text) : Option ViolationKind :=
  all.find? fun kind => Text.ofString kind.tag == tag

end ViolationKind

structure Violation where
  kind : ViolationKind
  subject : Json
  message : Text

def Violation.ground (violation : Violation) : ViolationKind × Json :=
  (violation.kind, violation.subject)

end CrateGuard
