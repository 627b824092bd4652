import CrateGuard.Proofs.Gate.AuditVerdict
import CrateGuard.Proofs.Source.Legible

/-! Whether an audit comes to a verdict on inputs that are accepted. A scan output is accepted
whatever stands in it for the id of an advisory, and the evaluation collects the ids in a set. A
list or an object is no member of a set, so one such id ends the audit without a verdict; nothing
else in a scan output does. -/

namespace CrateGuard

namespace AdvisoryReport

/-- Some lesser finding of a scan output has a list or an object for the id of its advisory. -/
def HasStrayId (output : Json) : Prop :=
  ∃ category, ∃ element ∈ (rawWarnings output category).elements, (rawId element).IsStrayId

private theorem isStrayId_orElse_null {id : Json} : (id.orElse .null).IsStrayId ↔ id.IsStrayId := by
  unfold Json.orElse
  split_ifs with hfilled
  · rfl
  · constructor
    · rintro ⟨hnull, _⟩
      cases hnull
    · exact fun h => absurd h.1 hfilled

private theorem exists_isStrayId_iff {output : Json} {report : AdvisoryReport}
    (h : ofJson output = .ok report) :
    (∃ warning ∈ report.warnings, warning.advisoryId.IsStrayId) ↔ HasStrayId output := by
  have hids := (ofJson_eq_ok h).2
  have hmapped : (∃ warning ∈ report.warnings, warning.advisoryId.IsStrayId) ↔
      ∃ id ∈ report.warnings.map AdvisoryWarning.advisoryId, id.IsStrayId := by
    simp only [List.mem_map, exists_exists_and_eq_and]
  rw [hmapped, hids]
  simp only [List.mem_map, exists_exists_and_eq_and, isStrayId_orElse_null, mem_rawFindings, HasStrayId]
  constructor
  · rintro ⟨element, ⟨category, hmem⟩, hstray⟩
    exact ⟨category, element, hmem, hstray⟩
  · rintro ⟨category, element, hmem, hstray⟩
    exact ⟨element, ⟨category, hmem⟩, hstray⟩

end AdvisoryReport

namespace Evaluation

/-- On an accepted scan output the evaluation either finds violations, of which there may be none,
or meets a stray id. -/
private theorem violations_cases {policy : Policy}
    (htexts : ∀ entry ∈ policy.allow, ∃ s, entry.id = .str s) {output : Json}
    {report : AdvisoryReport} (h : AdvisoryReport.ofJson output = .ok report) (today : Date) :
    AdvisoryReport.HasStrayId output ∧ violations report policy today = .error .unhashable ∨
      ¬AdvisoryReport.HasStrayId output ∧ ∃ found, violations report policy today = .ok found := by
  rw [← AdvisoryReport.exists_isStrayId_iff h]
  rcases report.advisoryIds_eq with ⟨hids, hstray⟩ | ⟨⟨ids, hids⟩, hnone⟩
  · exact .inl ⟨hstray, by rw [violations, hids, error_bind]⟩
  · refine .inr ⟨?_, _, violations_eq_ok hids htexts today⟩
    rintro ⟨warning, hwarning, hstray⟩
    exact hnone warning hwarning hstray

end Evaluation

namespace AuditJob

/-- An audit that has its inputs decides by what the evaluation finds, and ends with it. -/
private theorem run_of_inputs {world : World} {files : FileTree} {job : AuditJob} {today : Date}
    {policy : Policy}
    {report : AdvisoryReport} (htoday : job.day world = .ok today)
    (hinputs : (job.inputs world files).result = .ok (.ok (policy, report))) :
    (job.run world files).result = (Evaluation.violations report policy today).map fun found =>
      if found.isEmpty then .pass else .fail := by
  simp only [run, Run.result_bind, Run.result_ofExcept, htoday, hinputs, ok_bind, conclude_result]
  rfl

/-- Under a policy that was loaded, an accepted scan output is evaluated if and only if none of its
lesser findings has a list or an object for the id of its advisory. Otherwise the evaluation
crashes, and an audit with these inputs ends without a verdict. -/
theorem evaluation_completes_iff {settings : FileTree} {place : ShownPath} {policy : Policy}
    {output : Json}
    {report : AdvisoryReport} (hpolicy : (Policy.load settings place).result = .ok (.ok policy))
    (hreport : AdvisoryReport.ofJson output = .ok report) (today : Date) :
    ((∃ found, Evaluation.violations report policy today = .ok found) ↔ ¬AdvisoryReport.HasStrayId output) ∧
    (AdvisoryReport.HasStrayId output → Evaluation.violations report policy today = .error .unhashable) ∧
    ∀ (world : World) (files : FileTree) (job : AuditJob), job.day world = .ok today →
      (job.inputs world files).result = .ok (.ok (policy, report)) →
      ((∃ verdict, (job.run world files).result = .ok verdict) ↔ ¬AdvisoryReport.HasStrayId output) ∧
      (AdvisoryReport.HasStrayId output → (job.run world files).result = .error .unhashable) := by
  have htexts := (Policy.load_wellFormed hpolicy).hasDistinctIds.id_text
  rcases Evaluation.violations_cases htexts hreport today with ⟨hstray, herror⟩ | ⟨hnone, found, hfound⟩
  · simp only [hstray, herror, not_true_eq_false, iff_false, forall_const, true_and]
    refine ⟨by simp, ?_⟩
    intro world files job htoday hinputs
    rw [run_of_inputs htoday hinputs, herror]
    exact ⟨by simp [Except.map], rfl⟩
  · refine ⟨⟨fun _ => hnone, fun _ => ⟨found, hfound⟩⟩, fun hstray => absurd hstray hnone, ?_⟩
    intro world files job htoday hinputs
    rw [run_of_inputs htoday hinputs, hfound]
    exact ⟨⟨fun _ => hnone, fun _ => ⟨_, rfl⟩⟩, fun hstray => absurd hstray hnone⟩

def noticeOutput (id : Json) : Json :=
  .obj [("warnings", .obj [("notice", .arr [.obj [("advisory", .obj [("id", id)])]])])]

def numberedScan : String :=
  "\x7b\"warnings\": \x7b\"notice\": [\x7b\"advisory\": \x7b\"id\": 5\x7d\x7d]\x7d\x7d"

def listedScan : String :=
  "\x7b\"warnings\": \x7b\"notice\": [\x7b\"advisory\": \x7b\"id\": [\"L\"]\x7d\x7d]\x7d\x7d"

def auditFiles (scan : String) : FileTree :=
  ⟨[(⟨false, 0, ["policy.json".toByteArray.toList]⟩, .file "\x7b\x7d".toByteArray),
    (⟨false, 0, ["audit.json".toByteArray.toList]⟩, .file scan.toByteArray)]⟩

def fileAudit : AuditJob :=
  ⟨.asWritten "policy.json", .files (some (Path.ofText "audit.json")) none, some ⟨2024, 1, 15, rfl⟩⟩

def quietWorld : World :=
  ⟨default, fun _ => .failed ⟨.value, []⟩, none, none, fun _ => none, fun _ => false⟩

private theorem noticeOutput_hasStrayId_iff (id : Json) :
    AdvisoryReport.HasStrayId (noticeOutput id) ↔ id.IsStrayId := by
  constructor
  · rintro ⟨category, element, hmem, hstray⟩
    cases category with
    | notice =>
      cases List.mem_singleton.mp hmem
      exact hstray
    | _ => cases hmem
  · exact fun hstray => ⟨.notice, _, List.mem_cons_self, hstray⟩

private theorem auditFiles_load (scan : String) :
    (Policy.load (auditFiles scan) fileAudit.policy).result = .ok (.ok ⟨[], 45⟩) := by
  have hbytes : (auditFiles scan).read (Path.ofText "policy.json") = .ok "\x7b\x7d".toByteArray := by cbv
  have hread : (Settings.readFile (auditFiles scan) fileAudit.policy.path).result = .ok (.ok (.obj [])) :=
    Settings.readFile_eq_ok rfl hbytes (by cbv)
  exact Settings.result_load_of_value hread

section
variable {scan : String} {output : Json}
variable (hvalue : Json.decode Json.nestingLimit (Text.ofString scan).unifyNewlines = .ok (.ok output))
include hvalue

private theorem auditFiles_value :
    (fileAudit.source.value (auditFiles scan) quietWorld.cargo .advisories).result = .ok (.ok output) := by
  have hbytes : (auditFiles scan).read (Path.ofText "audit.json") = .ok scan.toByteArray := by cbv
  exact Source.valueOfFile_eq_ok rfl hbytes hvalue .advisories

private theorem fileAudit_inputs {report : AdvisoryReport}
    (hreport : AdvisoryReport.ofJson output = .ok report) :
    (fileAudit.inputs quietWorld (auditFiles scan)).result = .ok (.ok (⟨[], 45⟩, report)) :=
  inputs_eq_ok.mpr ⟨auditFiles_load scan, output, auditFiles_value hvalue, hreport⟩

end

/-- A number is no name of an advisory either, but the audit comes to a verdict on it. -/
theorem evaluation_completes_numbered :
    (∃ found, Evaluation.violations ⟨[], [], [], [⟨.notice, .int 5, .null⟩]⟩ ⟨[], 45⟩ ⟨2024, 1, 15, rfl⟩ =
        .ok found) ∧
      ∃ verdict, (fileAudit.run quietWorld (auditFiles numberedScan)).result = .ok verdict := by
  have hvalue : Json.decode Json.nestingLimit (Text.ofString numberedScan).unifyNewlines =
      .ok (.ok (noticeOutput (.int 5))) := by
    cbv
  have hreport : AdvisoryReport.ofJson (noticeOutput (.int 5)) = .ok ⟨[], [], [], [⟨.notice, .int 5, .null⟩]⟩ := by rfl
  have hnone : ¬AdvisoryReport.HasStrayId (noticeOutput (.int 5)) := by
    rw [noticeOutput_hasStrayId_iff]
    rintro ⟨_, hstray⟩
    cases hstray
  obtain ⟨hfound, _, hrun⟩ := evaluation_completes_iff (auditFiles_load numberedScan) hreport ⟨2024, 1, 15, rfl⟩
  exact ⟨hfound.mpr hnone, (hrun _ _ fileAudit rfl (fileAudit_inputs hvalue hreport)).1.mpr hnone⟩

/-- One finding with a list for its id ends an audit whose inputs are accepted. -/
theorem fileAudit_crashes_on_list :
    (Policy.load (auditFiles listedScan) fileAudit.policy).result = .ok (.ok ⟨[], 45⟩) ∧
      AdvisoryReport.ofJson (noticeOutput (.arr [.str "L"])) = .ok ⟨[], [], [], [⟨.notice, .arr [.str "L"], .null⟩]⟩ ∧
      Evaluation.violations ⟨[], [], [], [⟨.notice, .arr [.str "L"], .null⟩]⟩ ⟨[], 45⟩ ⟨2024, 1, 15, rfl⟩ =
        .error .unhashable ∧
      (fileAudit.run quietWorld (auditFiles listedScan)).result = .error .unhashable := by
  have hvalue : Json.decode Json.nestingLimit (Text.ofString listedScan).unifyNewlines =
      .ok (.ok (noticeOutput (.arr [.str "L"]))) := by cbv
  have hreport : AdvisoryReport.ofJson (noticeOutput (.arr [.str "L"])) =
      .ok ⟨[], [], [], [⟨.notice, .arr [.str "L"], .null⟩]⟩ := by rfl
  have hcrash : Evaluation.violations ⟨[], [], [], [⟨.notice, .arr [.str "L"], .null⟩]⟩ ⟨[], 45⟩ ⟨2024, 1, 15, rfl⟩ =
      .error .unhashable := by rfl
  refine ⟨auditFiles_load _, hreport, hcrash, ?_⟩
  rw [run_of_inputs rfl (fileAudit_inputs hvalue hreport), hcrash]
  rfl

end AuditJob

end CrateGuard
