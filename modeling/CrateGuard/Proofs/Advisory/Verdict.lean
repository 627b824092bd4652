import CrateGuard.Advisory.Evaluation
import CrateGuard.Proofs.Calendar.ReviewDeadline
import CrateGuard.Proofs.Settings.PolicyEntries

/-! When a report has no violations: it tells of no vulnerability, every lesser finding is waived by
an exception in its window, and every exception is for an advisory that is still reported. -/

namespace CrateGuard

/-- A value that can be no id of an advisory: a list or an object that is not empty. -/
def Json.IsStrayId (value : Json) : Prop := value.filled = true ∧ value.hashable = false

/-- An exception for the advisory that may be granted today and has not expired. -/
def Policy.Waives (policy : Policy) (today : Date) (id : Json) : Prop :=
  ∃ entry ∈ policy.allow, entry.id = id ∧ ∃ reviewBy, entry.reviewBy = some reviewBy ∧
    today.dayNumber ≤ reviewBy.dayNumber ∧
    (reviewBy.dayNumber : Int) ≤ min (today.dayNumber + policy.window) Date.last.dayNumber

namespace AdvisoryReport

private theorem str_mem_addMember {members : List Json} {value : Json} {s : Text} :
    .str s ∈ addMember members value ↔ .str s ∈ members ∨ value = .str s := by
  unfold addMember
  split_ifs with hsame
  · constructor
    · exact .inl
    · rintro (h | rfl)
      · exact h
      · obtain ⟨other, hmem, he⟩ := List.any_eq_true.mp hsame
        rwa [← Json.same_str_iff.mp he]
  · simp [eq_comm]

private theorem str_mem_foldl_addMember {ids members : List Json} {s : Text} :
    .str s ∈ ids.foldl addMember members ↔ .str s ∈ members ∨ .str s ∈ ids := by
  induction ids generalizing members with
  | nil => simp
  | cons id ids ih =>
    rw [List.foldl_cons, ih, str_mem_addMember, List.mem_cons, or_assoc, eq_comm (a := id)]

/-- The set of reported ids holds a text exactly if it is not empty and a lesser finding has it as
its id. -/
theorem str_mem_advisoryIds {report : AdvisoryReport} {ids : List Json}
    (h : report.advisoryIds = .ok ids)
    (s : Text) : .str s ∈ ids ↔ s ≠ [] ∧ ∃ warning ∈ report.warnings, warning.advisoryId = .str s := by
  unfold advisoryIds at h
  dsimp only at h
  split_ifs at h
  cases h
  rw [str_mem_foldl_addMember]
  simp [and_comm]

/-- The set of reported ids can be formed unless some finding has a stray id. -/
theorem advisoryIds_eq (report : AdvisoryReport) :
    report.advisoryIds = .error .unhashable ∧ (∃ warning ∈ report.warnings, warning.advisoryId.IsStrayId) ∨
      (∃ ids, report.advisoryIds = .ok ids) ∧ ∀ warning ∈ report.warnings, ¬warning.advisoryId.IsStrayId := by
  unfold advisoryIds
  dsimp only
  split_ifs with hall
  · refine .inr ⟨⟨_, rfl⟩, ?_⟩
    rintro warning hwarning ⟨hfilled, hstray⟩
    have hid : warning.advisoryId ∈ (report.warnings.map AdvisoryWarning.advisoryId).filter Json.filled :=
      List.mem_filter.mpr ⟨List.mem_map_of_mem hwarning, hfilled⟩
    rw [List.all_eq_true.mp hall _ hid] at hstray
    cases hstray
  · refine .inl ⟨rfl, ?_⟩
    simpa [Json.IsStrayId] using hall

def HasTextIds (report : AdvisoryReport) : Prop :=
  ∀ warning ∈ report.warnings, warning.advisoryId = .null ∨ ∃ s, warning.advisoryId = .str s

theorem HasTextIds.exists_advisoryIds {report : AdvisoryReport} (h : report.HasTextIds) :
    ∃ ids, report.advisoryIds = .ok ids := by
  rcases report.advisoryIds_eq with ⟨_, warning, hwarning, hfilled, hstray⟩ | ⟨hids, _⟩
  · rcases h warning hwarning with hnull | ⟨s, hs⟩
    · rw [hnull] at hfilled
      cases hfilled
    · rw [hs] at hstray
      cases hstray
  · exact hids

end AdvisoryReport

namespace Evaluation

/-- A review date is past the deadline, before today, or in order. It is never past the deadline and
before today at once, since the deadline is not before today. Of an exception that has expired the
same is said on each later day. -/
theorem ofReviewDate_cases (id : Json) (reviewBy : Date) :
    ∃ expiry, ∀ {window : Int}, 0 ≤ window → ∀ today : Date,
      ((reviewDeadline today window).dayNumber < reviewBy.dayNumber ∧
        ∃ message, ofReviewDate window today id reviewBy = [⟨.reviewWindowExceeded, id, message⟩]) ∨
      (reviewBy.dayNumber < today.dayNumber ∧
        ofReviewDate window today id reviewBy = [⟨.exceptionExpired, id, expiry⟩]) ∨
      today.dayNumber ≤ reviewBy.dayNumber ∧ reviewBy.dayNumber ≤ (reviewDeadline today window).dayNumber ∧
        ofReviewDate window today id reviewBy = [] := by
  refine ⟨"policy entry " ++ id.text ++ " expired on " ++ reviewBy.text, fun {window} h today => ?_⟩
  have hdeadline := le_reviewDeadline today h
  simp only [ofReviewDate, Date.isBefore, decide_eq_true_eq]
  by_cases hlate : (reviewDeadline today window).dayNumber < reviewBy.dayNumber
  · rw [if_pos hlate, if_neg (by omega)]
    exact .inl ⟨hlate, _, rfl⟩
  · rw [if_neg hlate, List.nil_append]
    by_cases hexpired : reviewBy.dayNumber < today.dayNumber
    · exact .inr (.inl ⟨hexpired, if_pos hexpired⟩)
    · exact .inr (.inr ⟨by omega, by omega, if_neg hexpired⟩)

private theorem ofReviewDate_eq_nil_iff {window : Int} (h : 0 ≤ window) (today : Date) (id : Json)
    (reviewBy : Date) : ofReviewDate window today id reviewBy = [] ↔
      today.dayNumber ≤ reviewBy.dayNumber ∧
      (reviewBy.dayNumber : Int) ≤ min (today.dayNumber + window) Date.last.dayNumber := by
  rw [← dayNumber_reviewDeadline today h, Int.ofNat_le]
  have hdeadline := le_reviewDeadline today h
  obtain ⟨_, hcases⟩ := ofReviewDate_cases id reviewBy
  rcases hcases h today with ⟨hlate, _, hfound⟩ | ⟨hexpired, hfound⟩ | ⟨hfrom, hto, hfound⟩
  · simp only [hfound, List.cons_ne_nil, false_iff]
    omega
  · simp only [hfound, List.cons_ne_nil, false_iff]
    omega
  · exact iff_of_true hfound ⟨hfrom, hto⟩

def Passes (policy : Policy) (today : Date) (id : Json) : Prop :=
  ∃ entry reviewBy, policy.entryFor id = some entry ∧ entry.reviewBy = some reviewBy ∧
    ofReviewDate policy.window today id reviewBy = []

theorem ofWarning_congr {policy rules : Policy} {warning : AdvisoryWarning}
    (hentry : policy.entryFor warning.advisoryId = rules.entryFor warning.advisoryId)
    (hwindow : policy.window = rules.window) (today : Date) :
    ofWarning policy today warning = ofWarning rules today warning := by
  rw [ofWarning, ofWarning, hentry, hwindow]

theorem ofWarning_eq_nil_iff_passes {policy : Policy} {today : Date} {warning : AdvisoryWarning} :
    ofWarning policy today warning = [] ↔
      warning.advisoryId.filled = true ∧ Passes policy today warning.advisoryId := by
  unfold ofWarning Passes
  dsimp only
  cases hfilled : warning.advisoryId.filled with
  | false => simp
  | true =>
    cases hentry : policy.entryFor warning.advisoryId with
    | none => simp
    | some entry => cases hdate : entry.reviewBy <;> simp [hdate]

private theorem ofWarning_eq_nil_iff {policy : Policy} (wf : policy.WellFormed) (today : Date)
    (warning : AdvisoryWarning) :
    ofWarning policy today warning = [] ↔ policy.Waives today warning.advisoryId := by
  have hwindow : 0 ≤ policy.window := by have := wf.window_pos; omega
  rw [ofWarning_eq_nil_iff_passes]
  constructor
  · rintro ⟨_, entry, reviewBy, hentry, hdate, hspan⟩
    obtain ⟨hmem, hid⟩ := wf.hasDistinctIds.entryFor_eq_some_iff.mp hentry
    exact ⟨entry, hmem, hid, reviewBy, hdate, (ofReviewDate_eq_nil_iff hwindow ..).mp hspan⟩
  · rintro ⟨entry, hmem, hid, reviewBy, hdate, hspan⟩
    obtain ⟨s, hs, htext⟩ := wf.id_text entry hmem
    refine ⟨?_, entry, reviewBy, wf.hasDistinctIds.entryFor_eq_some_iff.mpr ⟨hmem, hid⟩, hdate, ?_⟩
    · rw [← hid, htext]
      simpa using hs
    · exact (ofReviewDate_eq_nil_iff hwindow ..).mpr hspan

theorem flatMap_eq_map_filter {α β : Type} {f : α → List β} {g : α → β} {p : α → Bool} {xs : List α}
    (h : ∀ x ∈ xs, f x = if p x then [g x] else []) : xs.flatMap f = (xs.filter p).map g := by
  induction xs with
  | nil => rfl
  | cons x rest ih =>
    obtain ⟨hfirst, hrest⟩ := List.forall_mem_cons.mp h
    rw [List.flatMap_cons, hfirst, ih hrest, List.filter_cons]
    cases p x <;> rfl

/-- The violation that an exception is if no finding has its id. -/
def stale (id : Json) : Violation :=
  ⟨.staleAllowlistEntry, id, "stale allowlist entry " ++ id.text ++ " is no longer present in audit output"⟩

def staleness (reported : List Json) (entry : AllowEntry) : List Violation :=
  if reported.any entry.id.same then [] else [stale entry.id]

private theorem ofEntry_eq_ok {reported : List Json} {entry : AllowEntry}
    (h : ∃ s, entry.id = .str s) :
    ofEntry reported entry = .ok (staleness reported entry) := by
  obtain ⟨s, hs⟩ := h
  unfold ofEntry staleness stale
  rw [hs, if_neg (by simp), apply_ite Except.ok]

theorem staleness_eq_nil_iff {reported : List Json} {entry : AllowEntry}
    (h : ∃ s, entry.id = .str s) :
    staleness reported entry = [] ↔ entry.id ∈ reported := by
  obtain ⟨s, hs⟩ := h
  unfold staleness
  rw [hs]
  split_ifs with hany
  · simpa [List.any_eq_true] using hany
  · simpa [List.any_eq_true] using hany

/-- On exceptions with texts for ids all violations are found, those of the findings and of the
exceptions. -/
theorem violations_eq_ok {report : AdvisoryReport} {policy : Policy} {ids : List Json}
    (hids : report.advisoryIds = .ok ids) (htexts : ∀ entry ∈ policy.allow, ∃ s, entry.id = .str s) (today : Date) :
    violations report policy today = .ok (report.vulnerabilities.map ofVulnerability ++
      report.warnings.flatMap (ofWarning policy today) ++ policy.allow.flatMap (staleness ids)) := by
  have hstale : policy.allow.mapM (ofEntry ids) = .ok (policy.allow.map (staleness ids)) :=
    mapM_eq_ok_map fun entry hentry => ofEntry_eq_ok (htexts entry hentry)
  rw [violations, hids, ok_bind, hstale, ok_bind]
  rfl

theorem violations_eq_nil_iff_of_ids {report : AdvisoryReport} {policy : Policy} {ids : List Json}
    (hids : report.advisoryIds = .ok ids) (htexts : ∀ entry ∈ policy.allow, ∃ s, entry.id = .str s) (today : Date) :
    violations report policy today = .ok [] ↔ report.vulnerabilities = [] ∧
      (∀ warning ∈ report.warnings, ofWarning policy today warning = []) ∧ ∀ entry ∈ policy.allow, entry.id ∈ ids := by
  rw [violations_eq_ok hids htexts, Except.ok.injEq, List.append_eq_nil_iff, List.append_eq_nil_iff,
    List.map_eq_nil_iff, List.flatMap_eq_nil_iff, List.flatMap_eq_nil_iff, and_assoc]
  have hstale : (∀ entry ∈ policy.allow, staleness ids entry = []) ↔ ∀ entry ∈ policy.allow, entry.id ∈ ids :=
    forall₂_congr fun entry hentry => staleness_eq_nil_iff (htexts entry hentry)
  rw [hstale]

theorem violations_eq_nil_iff {policy : Policy} (wf : policy.WellFormed) (report : AdvisoryReport)
    (today : Date) :
    violations report policy today = .ok [] ↔
      report.vulnerabilities = [] ∧
      (∀ warning ∈ report.warnings, policy.Waives today warning.advisoryId) ∧
      ∀ entry ∈ policy.allow, ∃ warning ∈ report.warnings, warning.advisoryId = entry.id := by
  have htexts := wf.hasDistinctIds.id_text
  have hreported {ids : List Json} (hids : report.advisoryIds = .ok ids) : (∀ entry ∈ policy.allow, entry.id ∈ ids) ↔
      ∀ entry ∈ policy.allow, ∃ warning ∈ report.warnings, warning.advisoryId = entry.id := by
    apply forall₂_congr
    intro entry hentry
    obtain ⟨s, hs, htext⟩ := wf.id_text entry hentry
    rw [htext, AdvisoryReport.str_mem_advisoryIds hids]
    exact and_iff_right hs
  simp only [← ofWarning_eq_nil_iff wf]
  constructor
  · intro h
    obtain ⟨ids, hids, _⟩ := bind_eq_ok.mp h
    rwa [violations_eq_nil_iff_of_ids hids htexts, hreported hids] at h
  · rintro ⟨hvulnerable, hwaived, hlisted⟩
    have hids : report.HasTextIds := by
      intro warning hwarning
      obtain ⟨entry, hentry, hid, _⟩ := (ofWarning_eq_nil_iff wf today warning).mp (hwaived warning hwarning)
      obtain ⟨s, htext⟩ := htexts entry hentry
      exact .inr ⟨s, hid.symm.trans htext⟩
    obtain ⟨ids, hids⟩ := hids.exists_advisoryIds
    rw [violations_eq_nil_iff_of_ids hids htexts, hreported hids]
    exact ⟨hvulnerable, hwaived, hlisted⟩

end Evaluation

end CrateGuard
