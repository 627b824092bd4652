import CrateGuard.Gate.InputFault
import CrateGuard.Report.Lines
import CrateGuard.Settings.Policy
import CrateGuard.Source.Evidence

/-! The audit gate. It passes if the policy and the report can be read and the report meets the
policy; whatever the policy allows, a vulnerability fails it. -/

namespace CrateGuard

structure AuditJob where
  policy : ShownPath
  source : Source
  today : Option Date

namespace AuditJob

def day (world : World) (job : AuditJob) : Except Crash Date :=
  match job.today with
  | some today => .ok today
  | none => world.today

/-- The policy and the report. The report is not asked for without a policy. -/
def inputs (world : World) (files : FileTree) (job : AuditJob) :
    Run (Except InputFault (Policy × AdvisoryReport)) := do
  match ← Policy.load files job.policy with
  | .error fault => return .error (.settings job.policy fault)
  | .ok policy =>
    match ← job.source.advisoryReport files world.cargo with
    | .error fault => return .error (.evidence fault)
    | .ok report => return .ok (policy, report)

def conclude (violations : List Violation) (summary : AuditSummary) : Run Verdict := do
  let lines := Report.auditLines violations summary
  Run.say (lines.map (if violations.isEmpty then .out else .err))
  return if violations.isEmpty then .pass else .fail

def run (world : World) (files : FileTree) (job : AuditJob) : Run Verdict := do
  let today ← Run.ofExcept (job.day world)
  match ← job.inputs world files with
  | .error fault => fault.report auditTool
  | .ok (policy, report) =>
    let violations ← Run.ofExcept (Evaluation.violations report policy today)
    conclude violations (report.summary policy today)

end AuditJob

end CrateGuard
