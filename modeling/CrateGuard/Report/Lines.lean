import CrateGuard.Advisory.Evaluation
import CrateGuard.Report.Table

/-! The printed reports. The report of a watch has a header, a row for each package and a closing
part that names the violations; in advisory mode they are headed as warnings. The report of an audit
has one line if the policy is met, else a heading and a line for each violation. -/

namespace CrateGuard

def watchTool : String := "dependency-watch"

def auditTool : String := "audit-rust"

def modeName (advisory : Bool) : String :=
  if advisory then "advisory" else "strict"

namespace Report

def filledUp (width : Nat) (s : Text) : Text :=
  s ++ List.replicate (width - s.length) (.char ' ')

def rowLine (row : TableRow) : Text :=
  "  - " ++ filledUp 12 row.name ++ " group=" ++ filledUp 10 row.group ++ " current=" ++
    filledUp 12 row.current ++ " latest=" ++ filledUp 12 row.latest ++ " outcome=" ++ row.outcome

def bullet (violation : Violation) : Text :=
  "  - " ++ violation.message

def headLines (advisory : Bool) (rows : List TableRow) : List Text :=
  s!"{watchTool}: mode={modeName advisory}" :: rows.map rowLine

def tailLines (advisory : Bool) (violations : List Violation) : List Text :=
  if violations.isEmpty then [s!"{watchTool}: PASS"]
  else if advisory then
    let closing : Text := s!"{watchTool}: completed with warnings (non-blocking)"
    s!"{watchTool}: advisory warnings:" :: (violations.map bullet).concat closing
  else s!"{watchTool}: strict check failed" :: violations.map bullet

def watchLines (advisory : Bool) (outcomes : List DependencyOutcome)
    (violations : List Violation) : List Text :=
  headLines advisory (TableRow.table outcomes) ++ tailLines advisory violations

def passLine (summary : AuditSummary) : Text :=
  s!"{auditTool}: PASS (vulnerabilities={summary.vulnerabilities}, " ++
    s!"advisory_warnings={summary.warnings}, date=" ++ summary.today.text ++
    s!", max_review_window_days={summary.window})"

def auditLines (violations : List Violation) (summary : AuditSummary) : List Text :=
  if violations.isEmpty then [passLine summary]
  else s!"{auditTool}: policy check failed." :: violations.map bullet

end Report

end CrateGuard
