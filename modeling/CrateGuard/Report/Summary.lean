import CrateGuard.Calendar.Moment
import CrateGuard.Report.Lines

/-! The summary of a watch in Markdown: its mode and time, the table, and the violations if there
are any. Every line ends with a line feed, so that summaries can be appended to one another. -/

namespace CrateGuard.Report

def summaryRow (row : TableRow) : Text :=
  "| " ++ Text.listed " | " row.cells ++ " |"

def summaryHead (advisory : Bool) (timestamp : Text) : List Text :=
  ["## Dependency Watch", "", s!"- Mode: {modeName advisory}", "- Timestamp (UTC): " ++ timestamp,
    "", "| Crate | Group | Current | Latest | Outcome |", "|---|---|---|---|---|"]

def summaryItem (violation : Violation) : Text :=
  "- " ++ violation.message

def summaryTail (violations : List Violation) : List Text :=
  if violations.isEmpty then [] else "" :: "### Failures" :: violations.map summaryItem

def summaryLines (advisory : Bool) (outcomes : List DependencyOutcome)
    (violations : List Violation) (timestamp : Text) : List Text :=
  summaryHead advisory timestamp ++ (TableRow.table outcomes).map summaryRow ++
    summaryTail violations

def summary? (advisory : Bool) (outcomes : List DependencyOutcome)
    (violations : List Violation) (moment : Moment) : Option Text :=
  moment.timestamp?.map fun timestamp =>
    (summaryLines advisory outcomes violations timestamp).flatMap (· ++ "\n")

end CrateGuard.Report
