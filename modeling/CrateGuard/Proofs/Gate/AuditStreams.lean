import CrateGuard.Proofs.Gate.AuditCompletion
import CrateGuard.Proofs.Gate.InputFaults

/-! The two streams of an audit. It prints a pass on the output or says on the error stream why it
fails, never both. A pass is printed only if nothing is wrong with what was found, so it tells of no
vulnerability, and of as many lesser findings as the report has, all of them waived. -/

namespace CrateGuard.AuditJob

def passItem (warnings : Nat) (today : Date) (window : Int) : Text :=
  "audit-rust: PASS (vulnerabilities=0, " ++ s!"advisory_warnings={warnings}, date=" ++ today.text ++
    s!", max_review_window_days={window})"

def failureHeading : Text := "audit-rust: policy check failed."

/-- The ways in which an audit ends that comes to a verdict, with the items that it prints on the
output and on the error stream. -/
inductive End (world : World) (files : FileTree) (job : AuditJob) : List Text → List Text → Verdict → Prop
  | unloaded {fault : SettingsFault} (hload : (Policy.load files job.policy).result = .ok (.error fault)) :
    End world files job [] ["audit-rust: " ++ fault.message job.policy] .fail
  | unread {policy : Policy} {fault : SourceFault} (hload : (Policy.load files job.policy).result = .ok (.ok policy))
    (hread : (job.source.advisoryReport files world.cargo).result = .ok (.error fault)) :
    End world files job [] ["audit-rust: " ++ fault.message] .fail
  | passed {today : Date} {policy : Policy} {report : AdvisoryReport} (hday : job.day world = .ok today)
    (hinputs : (job.inputs world files).result = .ok (.ok (policy, report)))
    (hnone : Evaluation.violations report policy today = .ok []) :
    End world files job [passItem report.warnings.length today policy.window] [] .pass
  | violated {today : Date} {policy : Policy} {report : AdvisoryReport} {found : List Violation}
    (hday : job.day world = .ok today) (hinputs : (job.inputs world files).result = .ok (.ok (policy, report)))
    (hfound : Evaluation.violations report policy today = .ok found) (hsome : found ≠ []) :
    End world files job [] (failureHeading :: found.map Violation.item) .fail

section
variable {world : World} {files : FileTree} {job : AuditJob} {decided : Verdict}

private theorem inputs_eq_error {fault : InputFault}
    (h : (job.inputs world files).result = .ok (.error fault)) :
    (∃ refused, (Policy.load files job.policy).result = .ok (.error refused) ∧ fault = .settings job.policy refused) ∨
      ∃ policy unread, (Policy.load files job.policy).result = .ok (.ok policy) ∧
        (job.source.advisoryReport files world.cargo).result = .ok (.error unread) ∧ fault = .evidence unread := by
  obtain ⟨loaded, hload, h⟩ := Run.result_bind_eq_ok.mp h
  cases loaded with
  | error refused =>
    cases h
    exact .inl ⟨refused, hload, rfl⟩
  | ok policy =>
    obtain ⟨evidence, hread, h⟩ := Run.result_bind_eq_ok.mp h
    cases evidence with
    | error unread =>
      cases h
      exact .inr ⟨policy, unread, hload, hread, rfl⟩
    | ok report => cases h

private theorem isSilent_inputs (world : World) (files : FileTree) (job : AuditJob) :
    (job.inputs world files).IsSilent := by
  refine (Settings.isSilent_load _ _ files job.policy).bind fun loaded => ?_
  cases loaded with
  | error fault => exact Run.IsQuiet.isSilent rfl
  | ok policy =>
    refine (job.source.isSilent_advisoryReport files world.cargo).bind fun evidence => ?_
    cases evidence with
    | error fault => exact Run.IsQuiet.isSilent rfl
    | ok report => exact Run.IsQuiet.isSilent rfl

private theorem passLine_eq {report : AdvisoryReport} (hnone : report.vulnerabilities = [])
    (policy : Policy) (today : Date) :
    Report.passLine (report.summary policy today) = passItem report.warnings.length today policy.window := by
  have hcount : (report.summary policy today).vulnerabilities = 0 := congrArg List.length hnone
  rw [Report.passLine, hcount]
  rfl

/-- On the inputs of an audit the evaluation finds nothing wrong if and only if nothing is. -/
private theorem violations_eq_nil_iff_of_inputs {policy : Policy} {report : AdvisoryReport}
    (hinputs : (job.inputs world files).result = .ok (.ok (policy, report))) (today : Date) :
    Evaluation.violations report policy today = .ok [] ↔ report.vulnerabilities = [] ∧
      (∀ warning ∈ report.warnings, policy.Waives today warning.advisoryId) ∧
      ∀ entry ∈ policy.allow, ∃ warning ∈ report.warnings, warning.advisoryId = entry.id :=
  Evaluation.violations_eq_nil_iff (Policy.load_wellFormed (inputs_eq_ok.mp hinputs).1) report today

private theorem conclude_shows_pass (summary : AuditSummary) :
    (conclude [] summary).Shows [Report.passLine summary] [] :=
  (Run.shows_say_out [Report.passLine summary]).bind_pure _

private theorem conclude_shows_violations {found : List Violation} (hsome : found ≠ [])
    (summary : AuditSummary) :
    (conclude found summary).Shows [] (failureHeading :: found.map Violation.item) := by
  cases found with
  | nil => exact absurd rfl hsome
  | cons first later => exact (Run.shows_say_err (failureHeading :: (first :: later).map Violation.item)).bind_pure _

private theorem report_shows (fault : InputFault) : (fault.report auditTool).Shows []
    ["audit-rust: " ++ fault.message] :=
  (Run.shows_say_err ["audit-rust: " ++ fault.message]).bind_pure _

private theorem run_shows_fault {today : Date} {fault : InputFault}
    (hday : job.day world = .ok today)
    (hinputs : (job.inputs world files).result = .ok (.error fault)) :
    (job.run world files).Shows [] ["audit-rust: " ++ fault.message] :=
  (Run.isSilent_ofExcept _).bind_shows hday ((isSilent_inputs world files job).bind_shows hinputs (report_shows fault))

private theorem run_shows_conclusion {today : Date} {policy : Policy} {report : AdvisoryReport}
    {found : List Violation}
    {out err : List Text} (hday : job.day world = .ok today)
    (hinputs : (job.inputs world files).result = .ok (.ok (policy, report)))
    (hfound : Evaluation.violations report policy today = .ok found)
    (hshows : (conclude found (report.summary policy today)).Shows out err) : (job.run world files).Shows out err :=
  (Run.isSilent_ofExcept _).bind_shows hday
    ((isSilent_inputs world files job).bind_shows hinputs ((Run.isSilent_ofExcept _).bind_shows hfound hshows))

/-- An audit that comes to a verdict shows the items that go with the way it ends, and nothing
else. -/
private theorem run_end (h : (job.run world files).result = .ok decided) :
    ∃ out err, (job.run world files).Shows out err ∧ End world files job out err decided := by
  obtain ⟨today, hday, h⟩ := Run.result_bind_eq_ok.mp h
  obtain ⟨inputs, hinputs, h⟩ := Run.result_bind_eq_ok.mp h
  cases inputs with
  | error fault =>
    cases h
    refine ⟨_, _, run_shows_fault hday hinputs, ?_⟩
    rcases inputs_eq_error hinputs with ⟨refused, hload, rfl⟩ | ⟨policy, unread, hload, hread, rfl⟩
    · exact .unloaded hload
    · exact .unread hload hread
  | ok given =>
    obtain ⟨policy, report⟩ := given
    obtain ⟨found, hfound, h⟩ := Run.result_bind_eq_ok.mp h
    rw [conclude_result] at h
    by_cases hnone : found = []
    · subst hnone
      cases h
      obtain ⟨hvulnerable, _⟩ := (violations_eq_nil_iff_of_inputs hinputs today).mp hfound
      refine ⟨_, _, run_shows_conclusion hday hinputs hfound (conclude_shows_pass _), ?_⟩
      rw [passLine_eq hvulnerable]
      exact .passed hday hinputs hfound
    · rw [List.isEmpty_eq_false_iff.mpr hnone] at h
      cases h
      exact ⟨_, _, run_shows_conclusion hday hinputs hfound (conclude_shows_violations hnone _),
        .violated hday hinputs hfound hnone⟩

/-- The streams of an audit agree with its exit status. An audit that comes to a verdict exits with
0 if and only if it prints a single item on the output, which tells of a pass, and none on the error
stream. Then the report has no vulnerability and as many lesser findings as the item says, each of
them waived by an exception in its window. An audit that exits otherwise exits with 1 and prints on
the error stream alone: what is wrong with the policy or the scan output, or every violation in
order under one heading. Nothing else is shown. -/
theorem run_streams (hrun : (job.run world files).result = .ok decided) :
    ∃ out err, (job.run world files).Shows out err ∧ End world files job out err decided ∧
      (decided.exitCode = 0 ↔ (∃ warnings today window, out = [passItem warnings today window]) ∧ err = []) ∧
      (decided.exitCode = 0 → ∃ today policy report, job.day world = .ok today ∧
        (job.inputs world files).result = .ok (.ok (policy, report)) ∧
        out = [passItem report.warnings.length today policy.window] ∧ report.vulnerabilities = [] ∧
        ∀ warning ∈ report.warnings, policy.Waives today warning.advisoryId) ∧
      (decided.exitCode ≠ 0 → decided.exitCode = 1 ∧ out = [] ∧ err ≠ []) := by
  obtain ⟨out, err, hshows, hend⟩ := run_end hrun
  refine ⟨out, err, hshows, hend, ?_⟩
  cases hend with
  | unloaded hload => simp [Verdict.exitCode]
  | unread hload hread => simp [Verdict.exitCode]
  | passed hday hinputs hnone =>
    obtain ⟨hvulnerable, hwaived, _⟩ := (violations_eq_nil_iff_of_inputs hinputs _).mp hnone
    refine ⟨iff_of_true rfl ⟨⟨_, _, _, rfl⟩, rfl⟩, fun _ => ?_, fun h => absurd rfl h⟩
    exact ⟨_, _, _, hday, hinputs, rfl, hvulnerable, hwaived⟩
  | violated hday hinputs hfound hsome => simp [Verdict.exitCode]

end

def waivingPolicy : String :=
  "\x7b\"allow\": [\x7b\"id\": \"RUSTSEC-2023-0001\", \"review_by\": \"2024-02-01\"\x7d]\x7d"

def waivedScan : String :=
  "\x7b\"warnings\": \x7b\"notice\": [\x7b\"advisory\": \x7b\"id\": \"RUSTSEC-2023-0001\"\x7d\x7d]\x7d\x7d"

def waivedFiles : FileTree :=
  ⟨[(⟨false, 0, ["policy.json".toByteArray.toList]⟩, .file waivingPolicy.toByteArray),
    (⟨false, 0, ["audit.json".toByteArray.toList]⟩, .file waivedScan.toByteArray)]⟩

private theorem fileAudit_waived_load : (Policy.load waivedFiles fileAudit.policy).result =
    .ok (.ok ⟨[⟨.str "RUSTSEC-2023-0001", some ⟨2024, 2, 1, rfl⟩⟩], 45⟩) := by
  have hbytes : waivedFiles.read (Path.ofText "policy.json") = .ok waivingPolicy.toByteArray := by cbv
  have hvalue : Json.decode Json.nestingLimit (Text.ofString waivingPolicy).unifyNewlines = .ok (.ok (.obj [("allow",
      .arr [.obj [("id", .str "RUSTSEC-2023-0001"), ("review_by", .str "2024-02-01")]])])) := by cbv
  exact Settings.result_load_of_value (Settings.readFile_eq_ok rfl hbytes hvalue)

private theorem fileAudit_waived_inputs : (fileAudit.inputs quietWorld waivedFiles).result =
    .ok (.ok (⟨[⟨.str "RUSTSEC-2023-0001", some ⟨2024, 2, 1, rfl⟩⟩], 45⟩,
      ⟨[], [], [], [⟨.notice, .str "RUSTSEC-2023-0001", .null⟩]⟩)) := by
  have hbytes : waivedFiles.read (Path.ofText "audit.json") = .ok waivedScan.toByteArray := by cbv
  have hvalue : Json.decode Json.nestingLimit (Text.ofString waivedScan).unifyNewlines =
      .ok (.ok (noticeOutput (.str "RUSTSEC-2023-0001"))) := by cbv
  exact inputs_eq_ok.mpr ⟨fileAudit_waived_load, _, Source.valueOfFile_eq_ok rfl hbytes hvalue .advisories, rfl⟩

/-- An audit of these files passes, and says so with the number of findings that are waived. -/
theorem run_streams_waived :
    (fileAudit.run quietWorld waivedFiles).result.map Verdict.exitCode = .ok 0 ∧
      (fileAudit.run quietWorld waivedFiles).Shows
        ["audit-rust: PASS (vulnerabilities=0, advisory_warnings=1, date=2024-01-15, max_review_window_days=45)"]
        [] := by
  have hrun : (fileAudit.run quietWorld waivedFiles).result = .ok .pass :=
    run_eq_pass.mpr ⟨_, _, _, rfl, fileAudit_waived_inputs, by rfl⟩
  obtain ⟨out, err, hshows, _, hzero, hpass, _⟩ := run_streams hrun
  obtain ⟨today, policy, report, hday, hinputs, hout, _⟩ := hpass rfl
  cases hday
  cases hinputs.symm.trans fileAudit_waived_inputs
  cases (hzero.mp rfl).2
  have hitem : passItem 1 ⟨2024, 1, 15, rfl⟩ 45 =
      "audit-rust: PASS (vulnerabilities=0, advisory_warnings=1, date=2024-01-15, max_review_window_days=45)" := by
    cbv
  rw [hout] at hshows
  refine ⟨congrArg (Except.map Verdict.exitCode) hrun, ?_⟩
  rw [← hitem]
  exact hshows

end CrateGuard.AuditJob
