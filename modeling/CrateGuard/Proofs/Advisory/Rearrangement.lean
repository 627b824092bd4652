import CrateGuard.Proofs.Advisory.Verdict

/-! Reports and policies with their parts in another order. The same violations are found, in
another order, and whether any are found is a matter of sets: which advisories are reported and
which are excepted up to when. That needs the ids of a policy to be distinct, since the first
exception for an advisory is the one that counts. -/

namespace CrateGuard

def AdvisoryWarning.finding (warning : AdvisoryWarning) : Json × Json :=
  (warning.advisoryId, warning.packageName)

namespace AdvisoryReport

def findings (report : AdvisoryReport) : List (Json × Json) :=
  report.warnings.map AdvisoryWarning.finding

def HasUnidentified (report : AdvisoryReport) : Prop :=
  ∃ warning ∈ report.warnings, warning.advisoryId.filled = false

def Reports (report : AdvisoryReport) (s : Text) : Prop :=
  ∃ warning ∈ report.warnings, warning.advisoryId = .str s

private theorem exists_warning_iff (report : AdvisoryReport) (p : Json → Prop) :
    (∃ warning ∈ report.warnings, p warning.advisoryId) ↔ ∃ finding ∈ report.findings, p finding.1 := by
  constructor
  · rintro ⟨warning, hmem, hp⟩
    exact ⟨warning.finding, List.mem_map_of_mem hmem, hp⟩
  · rintro ⟨_, hmem, hp⟩
    obtain ⟨warning, hwarning, rfl⟩ := List.mem_map.mp hmem
    exact ⟨warning, hwarning, hp⟩

section
variable {report other : AdvisoryReport} (h : ∀ finding, finding ∈ report.findings ↔ finding ∈ other.findings)
include h

private theorem reports_iff_of_findings (s : Text) : report.Reports s ↔ other.Reports s := by
  unfold Reports
  rw [report.exists_warning_iff (· = .str s), other.exists_warning_iff (· = .str s)]
  exact exists_congr fun finding => and_congr_left' (h finding)

private theorem hasUnidentified_iff_of_findings : report.HasUnidentified ↔
    other.HasUnidentified := by
  unfold HasUnidentified
  rw [report.exists_warning_iff (·.filled = false), other.exists_warning_iff (·.filled = false)]
  exact exists_congr fun finding => and_congr_left' (h finding)

end

end AdvisoryReport

private theorem Policy.HasDistinctIds.entryFor_eq_of_mem_iff {policy rules : Policy}
    (hpolicy : policy.HasDistinctIds)
    (hrules : rules.HasDistinctIds) (h : ∀ entry, entry ∈ policy.allow ↔ entry ∈ rules.allow) :
    policy.entryFor = rules.entryFor := by
  funext id
  apply Option.ext
  intro entry
  rw [hpolicy.entryFor_eq_some_iff, hrules.entryFor_eq_some_iff, h]

namespace Evaluation

section
variable {policy rules : Policy}

private theorem ofWarning_eq_of_entryFor_eq (hentry : policy.entryFor = rules.entryFor)
    (hwindow : policy.window = rules.window)
    (today : Date) : ofWarning policy today = ofWarning rules today := by
  funext warning
  exact ofWarning_congr (congrFun hentry warning.advisoryId) hwindow today

private theorem passes_iff_of_entryFor_eq (hentry : policy.entryFor = rules.entryFor)
    (hwindow : policy.window = rules.window)
    (today : Date) (id : Json) : Passes policy today id ↔ Passes rules today id := by
  rw [Passes, Passes, hentry, hwindow]

private theorem staleness_eq_of_mem_iff {ids others : List Json}
    (h : ∀ s, .str s ∈ ids ↔ .str s ∈ others) {entry : AllowEntry}
    (htext : ∃ s, entry.id = .str s) : staleness ids entry = staleness others entry := by
  obtain ⟨s, hs⟩ := htext
  have hany : ids.any (Json.str s).same = others.any (Json.str s).same := by
    rw [Bool.eq_iff_iff]
    simpa [List.any_eq_true] using h s
  rw [staleness, staleness, hs, hany]

end

section
variable {report other : AdvisoryReport} {policy rules : Policy}

private theorem ofWarnings_eq_nil_iff (hids : report.HasTextIds) (today : Date) :
    (∀ warning ∈ report.warnings, ofWarning policy today warning = []) ↔
      ¬report.HasUnidentified ∧ ∀ s, s ≠ [] → report.Reports s → Passes policy today (.str s) := by
  simp only [ofWarning_eq_nil_iff_passes]
  constructor
  · intro h
    constructor
    · rintro ⟨warning, hmem, hfilled⟩
      rw [(h warning hmem).1] at hfilled
      cases hfilled
    · rintro s _ ⟨warning, hmem, hs⟩
      rw [← hs]
      exact (h warning hmem).2
  · rintro ⟨hidentified, hpasses⟩ warning hmem
    have hfilled : warning.advisoryId.filled = true :=
      Bool.of_not_eq_false fun he => hidentified ⟨warning, hmem, he⟩
    refine ⟨hfilled, ?_⟩
    rcases hids warning hmem with hnull | ⟨s, hs⟩
    · rw [hnull] at hfilled
      cases hfilled
    · rw [hs] at hfilled ⊢
      exact hpasses s (by simpa using hfilled) ⟨warning, hmem, hs⟩

/-- No violations, in terms of what is reported and what is excepted. -/
private theorem violations_eq_nil_iff_reports (hids : report.HasTextIds)
    (htexts : ∀ entry ∈ policy.allow, ∃ s, entry.id = .str s)
    (today : Date) :
    violations report policy today = .ok [] ↔ report.vulnerabilities = [] ∧
      (¬report.HasUnidentified ∧ ∀ s, s ≠ [] → report.Reports s → Passes policy today (.str s)) ∧
      ∀ entry ∈ policy.allow, ∃ s, s ≠ [] ∧ report.Reports s ∧ entry.id = .str s := by
  obtain ⟨ids, hreported⟩ := hids.exists_advisoryIds
  have hlisted : (∀ entry ∈ policy.allow, entry.id ∈ ids) ↔
      ∀ entry ∈ policy.allow, ∃ s, s ≠ [] ∧ report.Reports s ∧ entry.id = .str s := by
    apply forall₂_congr
    intro entry hentry
    obtain ⟨s, hs⟩ := htexts entry hentry
    rw [hs, AdvisoryReport.str_mem_advisoryIds hreported]
    constructor
    · rintro ⟨hne, hreports⟩
      exact ⟨s, hne, hreports, rfl⟩
    · rintro ⟨t, hne, hreports, ht⟩
      cases ht
      exact ⟨hne, hreports⟩
  rw [violations_eq_nil_iff_of_ids hreported htexts, ofWarnings_eq_nil_iff hids, hlisted]

private theorem violations_perm (hids : report.HasTextIds) (hothers : other.HasTextIds)
    (hpolicy : policy.HasDistinctIds)
    (hrules : rules.HasDistinctIds) (hwindow : policy.window = rules.window) (today : Date)
    (hvulnerable : report.vulnerabilities.Perm other.vulnerabilities)
    (hfindings : report.findings.Perm other.findings)
    (hallow : policy.allow.Perm rules.allow) :
    ∃ found others, violations report policy today = .ok found ∧ violations other rules today = .ok others ∧
      found.Perm others := by
  obtain ⟨ids, hreported⟩ := hids.exists_advisoryIds
  obtain ⟨otherIds, hother⟩ := hothers.exists_advisoryIds
  refine ⟨_, _, violations_eq_ok hreported hpolicy.id_text today, violations_eq_ok hother hrules.id_text today, ?_⟩
  have hmem (s : Text) : .str s ∈ ids ↔ .str s ∈ otherIds := by
    rw [AdvisoryReport.str_mem_advisoryIds hreported, AdvisoryReport.str_mem_advisoryIds hother]
    exact and_congr_right fun _ => AdvisoryReport.reports_iff_of_findings (fun _ => hfindings.mem_iff) s
  have hentry := hpolicy.entryFor_eq_of_mem_iff hrules fun entry => hallow.mem_iff
  -- the category of a finding is not read, so a finding is as good as what is read of it
  have hread (r : AdvisoryReport) : r.warnings.flatMap (ofWarning rules today) =
      r.findings.flatMap fun (id, package) => ofWarning rules today ⟨.notice, id, package⟩ := by
    rw [AdvisoryReport.findings, List.flatMap_map]
    rfl
  have hwarned : (report.warnings.flatMap (ofWarning policy today)).Perm
      (other.warnings.flatMap (ofWarning rules today)) := by
    rw [ofWarning_eq_of_entryFor_eq hentry hwindow, hread, hread]
    exact hfindings.flatMap_right _
  have hstale : (policy.allow.flatMap (staleness ids)).Perm (rules.allow.flatMap (staleness otherIds)) := by
    have hsame : policy.allow.flatMap (staleness ids) = policy.allow.flatMap (staleness otherIds) :=
      List.flatMap_congr fun entry hentry => staleness_eq_of_mem_iff hmem (hpolicy.id_text entry hentry)
    rw [hsame]
    exact hallow.flatMap_right _
  exact ((hvulnerable.map ofVulnerability).append hwarned).append hstale

private theorem violations_eq_nil_congr (hids : report.HasTextIds) (hothers : other.HasTextIds)
    (hpolicy : policy.HasDistinctIds)
    (hrules : rules.HasDistinctIds) (hwindow : policy.window = rules.window) (today : Date)
    (hvulnerable : report.vulnerabilities = [] ↔ other.vulnerabilities = [])
    (hunidentified : report.HasUnidentified ↔ other.HasUnidentified)
    (hreports : ∀ s, s ≠ [] → (report.Reports s ↔ other.Reports s))
    (hallow : ∀ entry, entry ∈ policy.allow ↔ entry ∈ rules.allow) :
    violations report policy today = .ok [] ↔ violations other rules today = .ok [] := by
  rw [violations_eq_nil_iff_reports hids hpolicy.id_text, violations_eq_nil_iff_reports hothers hrules.id_text,
    hvulnerable, hunidentified]
  have hentry := hpolicy.entryFor_eq_of_mem_iff hrules hallow
  have hpasses : (∀ s, s ≠ [] → report.Reports s → Passes policy today (.str s)) ↔
      ∀ s, s ≠ [] → other.Reports s → Passes rules today (.str s) := by
    apply forall₂_congr
    intro s hs
    rw [hreports s hs, passes_iff_of_entryFor_eq hentry hwindow]
  have hlisted : (∀ entry ∈ policy.allow, ∃ s, s ≠ [] ∧ report.Reports s ∧ entry.id = .str s) ↔
      ∀ entry ∈ rules.allow, ∃ s, s ≠ [] ∧ other.Reports s ∧ entry.id = .str s := by
    apply forall_congr'
    intro entry
    apply imp_congr (hallow entry)
    apply exists_congr
    intro s
    apply and_congr_right
    intro hs
    rw [hreports s hs]
  rw [hpasses, hlisted]

/-- A report evaluated under a policy gives the same violations however its findings and the
exceptions are arranged, and a lesser finding counts the same in each category. Whether there are
any depends only on whether there is a vulnerability, whether some finding has no id, which ids are
reported, and which of them are excepted up to when; to report a finding twice makes no
difference. -/
theorem violations_rearranged (hids : report.HasTextIds) (hothers : other.HasTextIds)
    (hpolicy : policy.HasDistinctIds)
    (hrules : rules.HasDistinctIds) (hwindow : policy.window = rules.window) (today : Date) :
    (report.vulnerabilities.Perm other.vulnerabilities →
      report.findings.Perm other.findings → policy.allow.Perm rules.allow →
      ∃ found others, violations report policy today = .ok found ∧ violations other rules today = .ok others ∧
        found.Perm others) ∧
    ((report.vulnerabilities = [] ↔ other.vulnerabilities = []) → (report.HasUnidentified ↔ other.HasUnidentified) →
      (∀ s, s ≠ [] → (report.Reports s ↔ other.Reports s)) →
      (∀ entry, entry ∈ policy.allow ↔ entry ∈ rules.allow) →
      (violations report policy today = .ok [] ↔ violations other rules today = .ok [])) ∧
    ∀ finding ∈ report.findings, other.vulnerabilities.Perm report.vulnerabilities →
      other.findings.Perm (finding :: report.findings) →
      (violations report policy today = .ok [] ↔ violations other policy today = .ok []) := by
  refine ⟨violations_perm hids hothers hpolicy hrules hwindow today,
    violations_eq_nil_congr hids hothers hpolicy hrules hwindow today, ?_⟩
  intro finding hfinding hvulnerable htwice
  have hmem (f : Json × Json) : f ∈ report.findings ↔ f ∈ other.findings := by
    rw [htwice.mem_iff, List.mem_cons, or_iff_right_of_imp]
    rintro rfl
    exact hfinding
  apply violations_eq_nil_congr hids hothers hpolicy hpolicy rfl today
  · rw [← List.length_eq_zero_iff, ← hvulnerable.length_eq, List.length_eq_zero_iff]
  · exact AdvisoryReport.hasUnidentified_iff_of_findings hmem
  · exact fun s _ => AdvisoryReport.reports_iff_of_findings hmem s
  · exact fun _ => Iff.rfl

end

def mixedReport : AdvisoryReport :=
  ⟨[], [⟨.unmaintained, .str "RUSTSEC-2024-0001", .str "serde"⟩], [⟨.unsound, .str "RUSTSEC-2024-0002", .null⟩],
    [⟨.notice, .null, .str "rand"⟩]⟩

def movedReport : AdvisoryReport :=
  ⟨[], [], [⟨.unsound, .null, .str "rand"⟩, ⟨.unsound, .str "RUSTSEC-2024-0002", .null⟩],
    [⟨.notice, .str "RUSTSEC-2024-0001", .str "serde"⟩]⟩

def mixedPolicy : Policy :=
  ⟨[⟨.str "RUSTSEC-2024-0001", some ⟨2024, 6, 30, rfl⟩⟩, ⟨.str "RUSTSEC-2024-0003", none⟩], 45⟩

def turnedPolicy : Policy :=
  ⟨[⟨.str "RUSTSEC-2024-0003", none⟩, ⟨.str "RUSTSEC-2024-0001", some ⟨2024, 6, 30, rfl⟩⟩], 45⟩

def soleReport : AdvisoryReport :=
  ⟨[], [⟨.unmaintained, .str "RUSTSEC-2024-0001", .str "serde"⟩], [], []⟩

def doubledReport : AdvisoryReport :=
  ⟨[], [⟨.unmaintained, .str "RUSTSEC-2024-0001", .str "serde"⟩], [],
    [⟨.notice, .str "RUSTSEC-2024-0001", .str "serde"⟩]⟩

def solePolicy : Policy :=
  ⟨[⟨.str "RUSTSEC-2024-0001", some ⟨2024, 6, 30, rfl⟩⟩], 45⟩

/-- Findings change their categories and exceptions their places, and a finding is reported
twice. -/
theorem violations_rearranged_moved :
    (∃ found others, violations mixedReport mixedPolicy ⟨2024, 6, 1, rfl⟩ = .ok found ∧
      violations movedReport turnedPolicy ⟨2024, 6, 1, rfl⟩ = .ok others ∧ found.Perm others) ∧
    violations doubledReport solePolicy ⟨2024, 6, 1, rfl⟩ = .ok [] := by
  have hmixed : mixedReport.HasTextIds := by
    simp [AdvisoryReport.HasTextIds, mixedReport, AdvisoryReport.warnings]
  have hmoved : movedReport.HasTextIds := by
    simp [AdvisoryReport.HasTextIds, movedReport, AdvisoryReport.warnings]
  have hpolicy : mixedPolicy.HasDistinctIds := by
    constructor <;> simp [mixedPolicy, Text.ofString]
  have hturned : turnedPolicy.HasDistinctIds := by
    constructor <;> simp [turnedPolicy, Text.ofString]
  have hsole : soleReport.HasTextIds := by
    simp [AdvisoryReport.HasTextIds, soleReport, AdvisoryReport.warnings]
  have hdoubled : doubledReport.HasTextIds := by
    simp [AdvisoryReport.HasTextIds, doubledReport, AdvisoryReport.warnings]
  have hsolePolicy : solePolicy.HasDistinctIds := by
    constructor <;> simp [solePolicy]
  constructor
  · refine (violations_rearranged hmixed hmoved hpolicy hturned rfl ⟨2024, 6, 1, rfl⟩).1 (.refl _) ?_ (.swap _ _ _)
    exact (List.reverse_perm mixedReport.findings).symm
  · have hclean : violations soleReport solePolicy ⟨2024, 6, 1, rfl⟩ = .ok [] := rfl
    have htwice := (violations_rearranged hsole hdoubled hsolePolicy hsolePolicy rfl ⟨2024, 6, 1, rfl⟩).2.2
    exact (htwice (.str "RUSTSEC-2024-0001", .str "serde") List.mem_cons_self (.refl _) (.refl _)).mp hclean

end Evaluation

end CrateGuard
