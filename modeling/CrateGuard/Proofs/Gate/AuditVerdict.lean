import CrateGuard.Gate.Audit
import CrateGuard.Proofs.Advisory.Elements
import CrateGuard.Proofs.Advisory.Verdict

/-! The verdict of an audit in terms of what its inputs hold. The audit passes if and only if both
inputs are accepted, no vulnerability is listed, and the lesser findings and the exceptions match:
every finding has an exception in its window, and every exception has a finding. -/

namespace CrateGuard.AuditJob
open AdvisoryReport

private theorem advisoryReport_eq_ok {source : Source} {files : FileTree} {cargo : Cargo}
    {report : AdvisoryReport} :
    (source.advisoryReport files cargo).result = .ok (.ok report) ↔
      ∃ output, (source.value files cargo .advisories).result = .ok (.ok output) ∧
        AdvisoryReport.ofJson output = .ok report := by
  simp only [Source.advisoryReport, Run.result_bind, Run.result_pure]
  constructor
  · intro h
    obtain ⟨value, hvalue, h⟩ := bind_eq_ok.mp h
    injection h with h
    obtain ⟨output, rfl, hreport⟩ := bind_eq_ok.mp h
    exact ⟨output, hvalue, hreport⟩
  · rintro ⟨output, hvalue, hreport⟩
    rw [hvalue, ok_bind, ok_bind, hreport]

theorem inputs_eq_ok {world : World} {files : FileTree} {job : AuditJob} {policy : Policy}
    {report : AdvisoryReport} :
    (job.inputs world files).result = .ok (.ok (policy, report)) ↔
      (Policy.load files job.policy).result = .ok (.ok policy) ∧
      ∃ output, (job.source.value files world.cargo .advisories).result = .ok (.ok output) ∧
        AdvisoryReport.ofJson output = .ok report := by
  rw [← advisoryReport_eq_ok, inputs, Run.result_bind]
  constructor
  · intro h
    obtain ⟨loaded, hload, h⟩ := bind_eq_ok.mp h
    cases loaded with
    | error fault => cases h
    | ok found =>
      dsimp only at h
      rw [Run.result_bind] at h
      obtain ⟨evidence, hevidence, h⟩ := bind_eq_ok.mp h
      cases evidence with
      | error fault => cases h
      | ok read =>
        cases h
        exact ⟨hload, hevidence⟩
  · rintro ⟨hload, hevidence⟩
    simp [hload, hevidence]

theorem conclude_result (violations : List Violation) (summary : AuditSummary) :
    (conclude violations summary).result = .ok (if violations.isEmpty then .pass else .fail) := by
  simp [conclude]

theorem run_eq_pass {world : World} {files : FileTree} {job : AuditJob} :
    (job.run world files).result = .ok .pass ↔
      ∃ today policy report, job.day world = .ok today ∧
        (job.inputs world files).result = .ok (.ok (policy, report)) ∧
        Evaluation.violations report policy today = .ok [] := by
  simp only [run, Run.result_bind, Run.result_ofExcept]
  constructor
  · intro h
    obtain ⟨today, htoday, h⟩ := bind_eq_ok.mp h
    obtain ⟨inputs, hinputs, h⟩ := bind_eq_ok.mp h
    cases inputs with
    | error fault => simp [InputFault.report] at h
    | ok read =>
      obtain ⟨policy, report⟩ := read
      simp only [Run.result_bind, Run.result_ofExcept, conclude_result] at h
      obtain ⟨violations, hviolations, h⟩ := bind_eq_ok.mp h
      cases violations with
      | nil => exact ⟨today, policy, report, htoday, hinputs, hviolations⟩
      | cons violation later => cases h
  · rintro ⟨today, policy, report, htoday, hinputs, hviolations⟩
    simp [htoday, hinputs, hviolations, conclude_result]

/-- The findings that a well-formed policy waives, told by what stands in the scan output. -/
private theorem waived_iff_raw {policy : Policy} (wf : policy.WellFormed) {today : Date}
    {output : Json}
    {report : AdvisoryReport} (h : AdvisoryReport.ofJson output = .ok report) :
    (∀ warning ∈ report.warnings, policy.Waives today warning.advisoryId) ↔
      ∀ category, ∀ element ∈ (rawWarnings output category).elements,
        ∃ id, id ≠ [] ∧ rawId element = .str id ∧ policy.Waives today (.str id) := by
  have hids := (ofJson_eq_ok h).2
  have hwarnings : (∀ warning ∈ report.warnings, policy.Waives today warning.advisoryId) ↔
      ∀ element ∈ rawFindings output, policy.Waives today ((rawId element).orElse .null) := by
    rw [← List.forall_mem_map (f := AdvisoryWarning.advisoryId) (P := policy.Waives today), hids,
      List.forall_mem_map]
  have hwaives (element : Json) : policy.Waives today ((rawId element).orElse .null) ↔
      ∃ id, id ≠ [] ∧ rawId element = .str id ∧ policy.Waives today (.str id) := by
    constructor
    · intro hw
      obtain ⟨entry, hmem, hid, hspan⟩ := hw
      obtain ⟨s, hs, htext⟩ := wf.id_text entry hmem
      have hraw := (Json.orElse_null_eq_str_iff hs).mp (hid.symm.trans htext)
      exact ⟨s, hs, hraw, entry, hmem, htext, hspan⟩
    · rintro ⟨id, hid, hraw, hw⟩
      rwa [(Json.orElse_null_eq_str_iff hid).mpr hraw]
  rw [hwarnings]
  simp only [hwaives, mem_rawFindings]
  constructor
  · intro hall category element hmem
    exact hall element ⟨category, hmem⟩
  · rintro hall element ⟨category, hmem⟩
    exact hall category element hmem

private theorem reported_iff_raw {policy : Policy} (wf : policy.WellFormed) {output : Json}
    {report : AdvisoryReport} (h : AdvisoryReport.ofJson output = .ok report) :
    (∀ entry ∈ policy.allow, ∃ warning ∈ report.warnings, warning.advisoryId = entry.id) ↔
      ∀ entry ∈ policy.allow, ∃ category, ∃ element ∈ (rawWarnings output category).elements,
        rawId element = entry.id := by
  have hids := (ofJson_eq_ok h).2
  apply forall₂_congr
  intro entry hentry
  obtain ⟨s, hs, htext⟩ := wf.id_text entry hentry
  have hmem : (∃ warning ∈ report.warnings, warning.advisoryId = entry.id) ↔
      ∃ element ∈ rawFindings output, (rawId element).orElse .null = entry.id := by
    rw [← List.mem_map, hids, List.mem_map]
  rw [hmem]
  simp only [htext, Json.orElse_null_eq_str_iff hs, mem_rawFindings]
  constructor
  · rintro ⟨element, ⟨category, hcategory⟩, hid⟩
    exact ⟨category, element, hcategory, hid⟩
  · rintro ⟨category, element, hcategory, hid⟩
    exact ⟨element, ⟨category, hcategory⟩, hid⟩

/-- An audit passes if and only if its policy and its scan output are accepted, the scan lists no
vulnerability, every lesser finding has the id of an exception that ends between today and the end
of the review window, and every exception has the id of a lesser finding. No policy waives a
vulnerability. -/
theorem run_passes_iff (world : World) (files : FileTree) (job : AuditJob) :
    (job.run world files).result.map Verdict.exitCode = .ok 0 ↔
      ∃ today policy output report, job.day world = .ok today ∧
        (Policy.load files job.policy).result = .ok (.ok policy) ∧
        (job.source.value files world.cargo .advisories).result = .ok (.ok output) ∧
        AdvisoryReport.ofJson output = .ok report ∧
        (rawVulnerabilities output = .null ∨ rawVulnerabilities output = .arr []) ∧
        (∀ category, ∀ element ∈ (rawWarnings output category).elements,
          ∃ id, id ≠ [] ∧ rawId element = .str id ∧ policy.Waives today (.str id)) ∧
        ∀ entry ∈ policy.allow, ∃ category, ∃ element ∈ (rawWarnings output category).elements,
          rawId element = entry.id := by
  have hexit : (job.run world files).result.map Verdict.exitCode = .ok 0 ↔
      (job.run world files).result = .ok .pass := by
    rw [map_eq_ok]
    constructor
    · rintro ⟨verdict, hverdict, hcode⟩
      cases verdict with
      | pass => exact hverdict
      | fail => cases hcode
    · exact fun hpass => ⟨.pass, hpass, rfl⟩
  rw [hexit, run_eq_pass]
  constructor
  · rintro ⟨today, policy, report, htoday, hinputs, hviolations⟩
    obtain ⟨hload, output, hvalue, hreport⟩ := inputs_eq_ok.mp hinputs
    have wf := Policy.load_wellFormed hload
    obtain ⟨hvulnerable, hwaived, hneeded⟩ :=
      (Evaluation.violations_eq_nil_iff wf report today).mp hviolations
    exact ⟨today, policy, output, report, htoday, hload, hvalue, hreport,
      (ofJson_eq_ok hreport).1.mp hvulnerable, (waived_iff_raw wf hreport).mp hwaived,
      (reported_iff_raw wf hreport).mp hneeded⟩
  · rintro ⟨today, policy, output, report, htoday, hload, hvalue, hreport, hvulnerable, hwaived, hneeded⟩
    have wf := Policy.load_wellFormed hload
    have hviolations := (Evaluation.violations_eq_nil_iff wf report today).mpr
      ⟨(ofJson_eq_ok hreport).1.mpr hvulnerable, (waived_iff_raw wf hreport).mpr hwaived,
        (reported_iff_raw wf hreport).mpr hneeded⟩
    exact ⟨today, policy, report, htoday, inputs_eq_ok.mpr ⟨hload, output, hvalue, hreport⟩, hviolations⟩

end CrateGuard.AuditJob
