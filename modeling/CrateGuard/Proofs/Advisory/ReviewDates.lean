import CrateGuard.Proofs.Advisory.Verdict

/-! What the day and the review window do to the violations of a report. They bear on the exceptions
with a review date alone. As time goes on, an exception that has expired stays so, and one that
reached too far comes within the window; a wider window takes in more exceptions and changes nothing
else. The last day of the calendar makes no difference to that, since the deadline only ever moves
ahead. -/

namespace CrateGuard.Evaluation

/-- What becomes of violations as time goes on: those that have expired stay, those past the window
leave, and the rest is the same. -/
structure Ages (found others : List Violation) : Prop where
  expired_stay :
    (found.filter (·.kind = .exceptionExpired)).Sublist (others.filter (·.kind = .exceptionExpired))
  exceeded_leave :
    ((others.filter (·.kind = .reviewWindowExceeded)).map Violation.ground).Sublist
      ((found.filter (·.kind = .reviewWindowExceeded)).map Violation.ground)
  rest_eq :
    found.filter (fun v => v.kind ≠ .exceptionExpired ∧ v.kind ≠ .reviewWindowExceeded) =
      others.filter (fun v => v.kind ≠ .exceptionExpired ∧ v.kind ≠ .reviewWindowExceeded)

/-- What becomes of violations in a wider window: but for their words some of those past the window
leave, and the rest is the same. -/
structure Eases (found others : List Violation) : Prop where
  sublist : (others.map Violation.ground).Sublist (found.map Violation.ground)
  rest_eq : found.filter (·.kind ≠ .reviewWindowExceeded) = others.filter (·.kind ≠ .reviewWindowExceeded)

/-- A relation that goes through appending goes through the lists for the members of a row. -/
private theorem flatMap_rel {α β : Type} {R : List β → List β → Prop} (hrefl : ∀ bs, R bs bs)
    (happend : ∀ {as bs cs ds}, R as bs → R cs ds → R (as ++ cs) (bs ++ ds)) {f g : α → List β} {xs : List α}
    (h : ∀ x ∈ xs, R (f x) (g x)) : R (xs.flatMap f) (xs.flatMap g) := by
  induction xs with
  | nil => exact hrefl []
  | cons x rest ih =>
    obtain ⟨hfirst, hrest⟩ := List.forall_mem_cons.mp h
    exact happend hfirst (ih hrest)

section
variable {found others more later : List Violation}

theorem Ages.refl (found : List Violation) : Ages found found := ⟨.refl _, .refl _, rfl⟩

theorem Ages.append (h : Ages found others) (hmore : Ages more later) :
    Ages (found ++ more) (others ++ later) := by
  constructor
  · simpa only [List.filter_append] using h.expired_stay.append hmore.expired_stay
  · simpa only [List.filter_append, List.map_append] using h.exceeded_leave.append hmore.exceeded_leave
  · rw [List.filter_append, List.filter_append, h.rest_eq, hmore.rest_eq]

/-- What had not yet expired at the end and was not past the window at the beginning was nothing in
between. -/
theorem Ages.eq_nil (hfirst : Ages [] found) (hlast : Ages found []) : found = [] := by
  have hexpired := List.sublist_nil.mp hlast.expired_stay
  have hexceeded := List.map_eq_nil_iff.mp (List.sublist_nil.mp hfirst.exceeded_leave)
  have hrest := hlast.rest_eq
  rw [List.filter_eq_nil_iff] at hexpired hexceeded
  rw [List.filter_nil, List.filter_eq_nil_iff] at hrest
  apply List.eq_nil_iff_forall_not_mem.mpr
  intro v hv
  have hkind := hrest v hv
  have hkept := hexpired v hv
  have hreached := hexceeded v hv
  simp only [decide_eq_true_eq] at hkind hkept hreached
  exact hkind ⟨hkept, hreached⟩

theorem Eases.refl (found : List Violation) : Eases found found := ⟨.refl _, rfl⟩

theorem Eases.append (h : Eases found others) (hmore : Eases more later) :
    Eases (found ++ more) (others ++ later) := by
  constructor
  · simpa only [List.map_append] using h.sublist.append hmore.sublist
  · rw [List.filter_append, List.filter_append, h.rest_eq, hmore.rest_eq]

end

private theorem ofReviewDate_ages {window : Int} (hwindow : 0 ≤ window) {today later : Date}
    (h : today.dayNumber ≤ later.dayNumber) (id : Json) (reviewBy : Date) :
    Ages (ofReviewDate window today id reviewBy) (ofReviewDate window later id reviewBy) := by
  have hdeadline := le_reviewDeadline later hwindow
  have hdeadlines := reviewDeadline_mono hwindow h le_rfl
  obtain ⟨expiry, hcases⟩ := ofReviewDate_cases id reviewBy
  rcases hcases hwindow today with ⟨hlate, message, hfound⟩ | ⟨hexpired, hfound⟩ | ⟨hfrom, hto, hfound⟩
  · rw [hfound]
    rcases hcases hwindow later with ⟨_, other, hothers⟩ | ⟨_, hothers⟩ | ⟨_, _, hothers⟩
    · rw [hothers]
      exact ⟨.refl _, .refl _, rfl⟩
    · rw [hothers]
      exact ⟨List.nil_sublist _, List.nil_sublist _, rfl⟩
    · rw [hothers]
      exact ⟨List.nil_sublist _, List.nil_sublist _, rfl⟩
  · -- What has expired neither reaches past a later deadline nor is in order again.
    rcases hcases hwindow later with ⟨hlate, _⟩ | ⟨_, hothers⟩ | ⟨hfrom, _⟩
    · omega
    · rw [hfound, hothers]
      exact Ages.refl _
    · omega
  · rw [hfound]
    rcases hcases hwindow later with ⟨hlate, _⟩ | ⟨_, hothers⟩ | ⟨_, _, hothers⟩
    · omega
    · rw [hothers]
      exact ⟨List.nil_sublist _, List.nil_sublist _, rfl⟩
    · rw [hothers]
      exact Ages.refl _

private theorem ofReviewDate_eases {narrow wide : Int} (hnarrow : 0 ≤ narrow) (h : narrow ≤ wide)
    (today : Date) (id : Json)
    (reviewBy : Date) : Eases (ofReviewDate narrow today id reviewBy) (ofReviewDate wide today id reviewBy) := by
  have hdeadline := le_reviewDeadline today hnarrow
  have hdeadlines : (reviewDeadline today narrow).dayNumber ≤ (reviewDeadline today wide).dayNumber :=
    reviewDeadline_mono hnarrow le_rfl h
  obtain ⟨expiry, hcases⟩ := ofReviewDate_cases id reviewBy
  have hwide := hnarrow.trans h
  rcases hcases hnarrow today with ⟨hlate, message, hfound⟩ | ⟨hexpired, hfound⟩ | ⟨hfrom, hto, hfound⟩
  · rw [hfound]
    rcases hcases hwide today with ⟨_, other, hothers⟩ | ⟨hexpired, _⟩ | ⟨_, _, hothers⟩
    · rw [hothers]
      exact ⟨.refl _, rfl⟩
    · omega
    · rw [hothers]
      exact ⟨List.nil_sublist _, rfl⟩
  · rcases hcases hwide today with ⟨hlate, _⟩ | ⟨_, hothers⟩ | ⟨hfrom, _⟩
    · omega
    · rw [hfound, hothers]
      exact Eases.refl _
    · omega
  · rcases hcases hwide today with ⟨hlate, _⟩ | ⟨hexpired, _⟩ | ⟨_, _, hothers⟩
    · omega
    · omega
    · rw [hfound, hothers]
      exact Eases.refl _

/-- The day and the window decide about a finding only if there is an exception for it with a review
date. -/
private theorem ofWarning_cases (allow : List AllowEntry) (warning : AdvisoryWarning) :
    (∃ own, ∀ window today, ofWarning ⟨allow, window⟩ today warning = own) ∨
      ∃ reviewBy, ∀ window today,
        ofWarning ⟨allow, window⟩ today warning = ofReviewDate window today warning.advisoryId reviewBy := by
  have hsame (window : Int) : Policy.entryFor ⟨allow, window⟩ warning.advisoryId =
      Policy.entryFor ⟨allow, 0⟩ warning.advisoryId := rfl
  simp only [ofWarning, hsame]
  cases warning.advisoryId.filled with
  | false => exact .inl ⟨_, fun _ _ => rfl⟩
  | true =>
    cases Policy.entryFor ⟨allow, 0⟩ warning.advisoryId with
    | none => exact .inl ⟨_, fun _ _ => rfl⟩
    | some entry =>
      obtain ⟨_, date⟩ := entry
      cases date with
      | none => exact .inl ⟨_, fun _ _ => rfl⟩
      | some reviewBy => exact .inr ⟨reviewBy, fun _ _ => rfl⟩

section
variable {report : AdvisoryReport} {policy : Policy}

private theorem ofWarning_ages (hwindow : 0 ≤ policy.window) {today later : Date}
    (h : today.dayNumber ≤ later.dayNumber)
    (warning : AdvisoryWarning) : Ages (ofWarning policy today warning) (ofWarning policy later warning) := by
  rcases ofWarning_cases policy.allow warning with ⟨own, hown⟩ | ⟨reviewBy, hreview⟩
  · rw [hown policy.window today, hown policy.window later]
    exact Ages.refl own
  · rw [hreview policy.window today, hreview policy.window later]
    exact ofReviewDate_ages hwindow h warning.advisoryId reviewBy

private theorem ofWarning_eases (allow : List AllowEntry) {narrow wide : Int} (hnarrow : 0 ≤ narrow)
    (h : narrow ≤ wide)
    (today : Date) (warning : AdvisoryWarning) :
    Eases (ofWarning ⟨allow, narrow⟩ today warning) (ofWarning ⟨allow, wide⟩ today warning) := by
  rcases ofWarning_cases allow warning with ⟨own, hown⟩ | ⟨reviewBy, hreview⟩
  · rw [hown narrow, hown wide]
    exact Eases.refl own
  · rw [hreview narrow, hreview wide]
    exact ofReviewDate_eases hnarrow h today warning.advisoryId reviewBy

/-- The vulnerabilities and the stale exceptions are the same on each day and in each window. -/
private theorem exists_violations_eq (hids : report.HasTextIds) {allow : List AllowEntry}
    (htexts : ∀ entry ∈ allow, ∃ s, entry.id = .str s) :
    ∃ stale, ∀ window today, violations report ⟨allow, window⟩ today =
      .ok (report.vulnerabilities.map ofVulnerability ++ report.warnings.flatMap (ofWarning ⟨allow, window⟩ today) ++
        stale) := by
  obtain ⟨ids, hreported⟩ := hids.exists_advisoryIds
  exact ⟨allow.flatMap (staleness ids), fun window today => violations_eq_ok hreported htexts today⟩

private theorem violations_ages (hids : report.HasTextIds)
    (htexts : ∀ entry ∈ policy.allow, ∃ s, entry.id = .str s)
    (hwindow : 0 ≤ policy.window) {today later : Date} (h : today.dayNumber ≤ later.dayNumber) :
    ∃ found others, violations report policy today = .ok found ∧ violations report policy later = .ok others ∧
      Ages found others ∧
      ∃ head tail, found = head ++ report.warnings.flatMap (ofWarning policy today) ++ tail ∧
        others = head ++ report.warnings.flatMap (ofWarning policy later) ++ tail := by
  obtain ⟨stale, heq⟩ := exists_violations_eq hids htexts
  refine ⟨_, _, heq policy.window today, heq policy.window later, ?_, _, _, rfl, rfl⟩
  have hwarned : Ages (report.warnings.flatMap (ofWarning policy today))
      (report.warnings.flatMap (ofWarning policy later)) :=
    flatMap_rel Ages.refl Ages.append fun warning _ => ofWarning_ages hwindow h warning
  exact ((Ages.refl _).append hwarned).append (Ages.refl stale)

/-- As time goes on each finding whose exception has expired keeps that violation, no finding gets
to be past the window, and all other violations stay the same, in the same places. So the days on
which a report passes have no gap. -/
theorem violations_over_time (hids : report.HasTextIds)
    (htexts : ∀ entry ∈ policy.allow, ∃ s, entry.id = .str s)
    (hwindow : 0 ≤ policy.window) :
    (∀ today later : Date, today.dayNumber ≤ later.dayNumber →
      ∃ found others, violations report policy today = .ok found ∧ violations report policy later = .ok others ∧
        Ages found others ∧
        (∃ head tail, found = head ++ report.warnings.flatMap (ofWarning policy today) ++ tail ∧
          others = head ++ report.warnings.flatMap (ofWarning policy later) ++ tail) ∧
        ∀ warning ∈ report.warnings, Ages (ofWarning policy today warning) (ofWarning policy later warning)) ∧
    ∀ first between last : Date, first.dayNumber ≤ between.dayNumber → between.dayNumber ≤ last.dayNumber →
      violations report policy first = .ok [] → violations report policy last = .ok [] →
      violations report policy between = .ok [] := by
  constructor
  · intro today later h
    obtain ⟨found, others, hfound, hothers, hages, hplaces⟩ := violations_ages hids htexts hwindow h
    exact ⟨found, others, hfound, hothers, hages, hplaces, fun warning _ => ofWarning_ages hwindow h warning⟩
  · intro first between last hfrom hto hfirst hlast
    obtain ⟨_, found, hnone, hfound, hbefore, _⟩ := violations_ages hids htexts hwindow hfrom
    obtain ⟨_, _, hagain, hnever, hafter, _⟩ := violations_ages hids htexts hwindow hto
    cases hfirst.symm.trans hnone
    cases hlast.symm.trans hnever
    cases hfound.symm.trans hagain
    rw [hfound, hbefore.eq_nil hafter]

end

def lateReport : AdvisoryReport :=
  ⟨[], [⟨.unmaintained, .str "RUSTSEC-9999-0001", .str "serde"⟩], [⟨.unsound, .str "RUSTSEC-9999-0002", .null⟩], []⟩

def lateAllow : List AllowEntry :=
  [⟨.str "RUSTSEC-9999-0001", some ⟨9999, 12, 10, rfl⟩⟩, ⟨.str "RUSTSEC-9999-0002", some Date.last⟩]

private theorem lateReport_hasTextIds : lateReport.HasTextIds := by
  simp [AdvisoryReport.HasTextIds, lateReport, AdvisoryReport.warnings]

private theorem lateAllow_texts (window : Int) :
    ∀ entry ∈ (Policy.mk lateAllow window).allow, ∃ s, entry.id = .str s := by
  simp [lateAllow]

/-- One exception comes within the window, then the other expires; in between the report passes. -/
theorem violations_over_time_late :
    (∃ found others, violations lateReport ⟨lateAllow, 14⟩ ⟨9999, 12, 1, rfl⟩ = .ok found ∧
      violations lateReport ⟨lateAllow, 14⟩ ⟨9999, 12, 24, rfl⟩ = .ok others ∧ Ages found others ∧
      found.map Violation.ground = [(.reviewWindowExceeded, .str "RUSTSEC-9999-0002")] ∧
      others.map Violation.ground = [(.exceptionExpired, .str "RUSTSEC-9999-0001")]) ∧
    violations lateReport ⟨lateAllow, 30⟩ ⟨9999, 12, 5, rfl⟩ = .ok [] := by
  constructor
  · obtain ⟨hages, _⟩ := violations_over_time lateReport_hasTextIds (lateAllow_texts 14) (by decide)
    obtain ⟨found, others, hfound, hothers, hrelated, _⟩ := hages ⟨9999, 12, 1, rfl⟩ ⟨9999, 12, 24, rfl⟩ (by decide)
    refine ⟨found, others, hfound, hothers, hrelated, ?_, ?_⟩
    · cases hfound
      rfl
    · cases hothers
      rfl
  · obtain ⟨_, hpasses⟩ := violations_over_time lateReport_hasTextIds (lateAllow_texts 30) (by decide)
    exact hpasses ⟨9999, 12, 1, rfl⟩ ⟨9999, 12, 5, rfl⟩ ⟨9999, 12, 10, rfl⟩ (by decide) (by decide) rfl rfl

section
variable {report : AdvisoryReport}

/-- In a wider window the same is found but for some of the exceptions past the window, so that a
report that passes still does. -/
theorem violations_widened (hids : report.HasTextIds) {allow : List AllowEntry}
    (htexts : ∀ entry ∈ allow, ∃ s, entry.id = .str s) {narrow wide : Int} (hnarrow : 0 ≤ narrow) (h : narrow ≤ wide)
    (today : Date) :
    ∃ found others, violations report ⟨allow, narrow⟩ today = .ok found ∧
      violations report ⟨allow, wide⟩ today = .ok others ∧
      (others.map Violation.ground).Sublist (found.map Violation.ground) ∧
      found.filter (·.kind ≠ .reviewWindowExceeded) = others.filter (·.kind ≠ .reviewWindowExceeded) ∧
      (found = [] → others = []) := by
  obtain ⟨stale, heq⟩ := exists_violations_eq hids htexts
  refine ⟨_, _, heq narrow today, heq wide today, ?_⟩
  have hwarned : Eases (report.warnings.flatMap (ofWarning ⟨allow, narrow⟩ today))
      (report.warnings.flatMap (ofWarning ⟨allow, wide⟩ today)) :=
    flatMap_rel Eases.refl Eases.append fun warning _ => ofWarning_eases allow hnarrow h today warning
  have heases := ((Eases.refl (report.vulnerabilities.map ofVulnerability)).append hwarned).append (Eases.refl stale)
  refine ⟨heases.sublist, heases.rest_eq, ?_⟩
  intro hnone
  have hsublist := heases.sublist
  rw [hnone, List.map_nil, List.sublist_nil] at hsublist
  exact List.map_eq_nil_iff.mp hsublist

end

/-- A window that leaves the calendar by far takes in the last day and lets nothing expire later. -/
theorem violations_widened_late :
    ∃ found others, violations lateReport ⟨lateAllow, 0⟩ ⟨9999, 12, 11, rfl⟩ = .ok found ∧
      violations lateReport ⟨lateAllow, 10000000000⟩ ⟨9999, 12, 11, rfl⟩ = .ok others ∧
      (others.map Violation.ground).Sublist (found.map Violation.ground) ∧
      found.map Violation.ground = [(.exceptionExpired, .str "RUSTSEC-9999-0001"),
        (.reviewWindowExceeded, .str "RUSTSEC-9999-0002")] ∧
      others.map Violation.ground = [(.exceptionExpired, .str "RUSTSEC-9999-0001")] := by
  obtain ⟨found, others, hfound, hothers, hsublist, _⟩ :=
    violations_widened lateReport_hasTextIds (lateAllow_texts 0) (le_refl 0) (show (0 : Int) ≤ 10000000000 by decide)
      ⟨9999, 12, 11, rfl⟩
  refine ⟨found, others, hfound, hothers, hsublist, ?_, ?_⟩
  · cases hfound
    rfl
  · cases hothers
    rfl

end CrateGuard.Evaluation
