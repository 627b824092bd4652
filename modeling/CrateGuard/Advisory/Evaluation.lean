import CrateGuard.Advisory.Report
import CrateGuard.Calendar.ReviewDeadline
import CrateGuard.Settings.Policy
import CrateGuard.Text.Blank
import CrateGuard.Violation

/-! The verdict on an advisory report. Vulnerabilities are never waived. A lesser finding is waived
by an exception whose review date lies between today and the review deadline. An exception for an
advisory that is no longer reported is a violation too. -/

namespace CrateGuard

structure AuditSummary where
  vulnerabilities : Nat
  warnings : Nat
  today : Date
  window : Int

namespace AdvisoryReport

def summary (report : AdvisoryReport) (policy : Policy) (today : Date) : AuditSummary :=
  ⟨report.vulnerabilities.length, report.warnings.length, today, policy.window⟩

end AdvisoryReport

namespace Evaluation

def ofVulnerability (v : Vulnerability) : Violation :=
  ⟨.vulnerability, v.id,
    Text.stripEnd ("vulnerability " ++ v.id.text ++ " " ++ v.packageName.text ++ " " ++
      v.packageVersion.text)⟩

def ofReviewDate (window : Int) (today : Date) (id : Json) (reviewBy : Date) : List Violation :=
  let deadline := reviewDeadline today window
  let late : List Violation :=
    if deadline.isBefore reviewBy then
      [⟨.reviewWindowExceeded, id, "policy entry " ++ id.text ++ " review_by " ++ reviewBy.text ++
        s!" exceeds {window} day window (" ++ deadline.text ++ ")"⟩]
    else []
  let expired : List Violation :=
    if reviewBy.isBefore today then
      [⟨.exceptionExpired, id, "policy entry " ++ id.text ++ " expired on " ++ reviewBy.text⟩]
    else []
  late ++ expired

def ofWarning (policy : Policy) (today : Date) (warning : AdvisoryWarning) : List Violation :=
  let package := warning.packageName.orElse (.str "unknown-package")
  let id := warning.advisoryId
  if !id.filled then
    [⟨.missingAdvisoryId, package, "warning without advisory id for " ++ package.text⟩]
  else match policy.entryFor id with
    | none =>
      [⟨.unreviewedAdvisory, id,
        "unreviewed advisory " ++ id.text ++ " (" ++ package.text ++ ")"⟩]
    | some entry =>
      match entry.reviewBy with
      | none =>
        [⟨.missingReviewDate, id, "policy entry " ++ id.text ++ " missing review_by date"⟩]
      | some reviewBy => ofReviewDate policy.window today id reviewBy

/-- The violations of an exception, given the reported advisory ids. Lists and objects cannot be
looked for among them. -/
def ofEntry (reported : List Json) (entry : AllowEntry) : Except Crash (List Violation) :=
  if !entry.id.hashable then .error .unhashable
  else if reported.any entry.id.same then .ok []
  else .ok [⟨.staleAllowlistEntry, entry.id,
    "stale allowlist entry " ++ entry.id.text ++ " is no longer present in audit output"⟩]

/-- All violations of a report: those of its findings in order, then those of the exceptions. -/
def violations (report : AdvisoryReport) (policy : Policy) (today : Date) :
    Except Crash (List Violation) := do
  let reported ← report.advisoryIds
  let stale ← policy.allow.mapM (ofEntry reported)
  return report.vulnerabilities.map ofVulnerability ++
    report.warnings.flatMap (ofWarning policy today) ++ stale.flatten

end Evaluation

end CrateGuard
