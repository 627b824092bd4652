import CrateGuard.Proofs.Advisory.Verdict

/-! Reports without violations. Their exceptions are for the advisories that they report and for no
others, so that none can be spared: without an exception the findings of its advisory are
unreviewed, and nothing else is wrong, and without the findings of an advisory its exception is
stale, and nothing else is wrong. -/

namespace CrateGuard

def AdvisoryWarning.isAbout (warning : AdvisoryWarning) (s : Text) : Bool :=
  match warning.advisoryId with
  | .str id => id = s
  | _ => false

private theorem AdvisoryWarning.isAbout_iff {warning : AdvisoryWarning} {s : Text} :
    warning.isAbout s = true ↔ warning.advisoryId = .str s := by
  rw [isAbout]
  cases warning.advisoryId <;> simp

namespace AdvisoryReport

def without (report : AdvisoryReport) (s : Text) : AdvisoryReport :=
  ⟨report.vulnerabilities, report.unmaintained.filter (!·.isAbout s), report.unsound.filter (!·.isAbout s),
    report.notice.filter (!·.isAbout s)⟩

private theorem warnings_without (report : AdvisoryReport) (s : Text) :
    (report.without s).warnings = report.warnings.filter (!·.isAbout s) := by
  rw [warnings, warnings, List.filter_append, List.filter_append]
  rfl

private theorem HasTextIds.without {report : AdvisoryReport} (h : report.HasTextIds) (s : Text) :
    (report.without s).HasTextIds := by
  intro warning hwarning
  rw [warnings_without] at hwarning
  exact h warning (List.mem_of_mem_filter hwarning)

private theorem mem_of_mem_foldl_addMember {ids members : List Json} {id : Json}
    (h : id ∈ ids.foldl addMember members) :
    id ∈ members ∨ id ∈ ids := by
  induction ids generalizing members with
  | nil => exact .inl h
  | cons first rest ih =>
    rcases ih h with hmem | hrest
    · unfold addMember at hmem
      split_ifs at hmem
      · exact .inl hmem
      · rcases List.mem_append.mp hmem with hmem | hfirst
        · exact .inl hmem
        · exact .inr (List.mem_cons.mpr (.inl (List.mem_singleton.mp hfirst)))
    · exact .inr (List.mem_cons_of_mem _ hrest)

private theorem exists_warning_of_mem_advisoryIds {report : AdvisoryReport} {ids : List Json}
    (hids : report.advisoryIds = .ok ids) {id : Json} (h : id ∈ ids) :
    ∃ warning ∈ report.warnings, warning.advisoryId = id := by
  unfold advisoryIds at hids
  dsimp only at hids
  split_ifs at hids
  cases hids
  rcases mem_of_mem_foldl_addMember h with hnone | hmem
  · cases hnone
  · exact List.mem_map.mp (List.mem_of_mem_filter hmem)

private theorem str_mem_advisoryIds_without {report : AdvisoryReport} {s : Text}
    {ids others : List Json}
    (hids : report.advisoryIds = .ok ids) (hothers : (report.without s).advisoryIds = .ok others) (t : Text) :
    .str t ∈ others ↔ t ≠ s ∧ .str t ∈ ids := by
  rw [str_mem_advisoryIds hothers, str_mem_advisoryIds hids, warnings_without]
  constructor
  · rintro ⟨ht, warning, hwarning, hid⟩
    obtain ⟨hmem, hother⟩ := List.mem_filter.mp hwarning
    refine ⟨?_, ht, warning, hmem, hid⟩
    rintro rfl
    rw [AdvisoryWarning.isAbout_iff.mpr hid] at hother
    cases hother
  · rintro ⟨hne, ht, warning, hmem, hid⟩
    refine ⟨ht, warning, List.mem_filter.mpr ⟨hmem, ?_⟩, hid⟩
    rw [Bool.not_eq_true', ← Bool.not_eq_true, AdvisoryWarning.isAbout_iff, hid]
    rintro ⟨⟩
    exact hne rfl

end AdvisoryReport

namespace Policy.HasDistinctIds
variable {policy : Policy} (h : policy.HasDistinctIds) {before after : List AllowEntry} {entry : AllowEntry}
  (hallow : policy.allow = before ++ entry :: after)
include h hallow

private theorem ne_of_split : ∀ other ∈ before ++ after, other.id ≠ entry.id := by
  have hnodup := h.id_nodup
  rw [hallow, List.map_append, List.map_cons, List.nodup_middle, List.nodup_cons, ← List.map_append] at hnodup
  intro other hother hid
  exact hnodup.1 (hid ▸ List.mem_map_of_mem hother)

private theorem mem_split_iff {other : AllowEntry} : other ∈ before ++ after ↔
    other ∈ policy.allow ∧ other.id ≠ entry.id := by
  constructor
  · intro hother
    refine ⟨?_, h.ne_of_split hallow other hother⟩
    rw [hallow, List.mem_append, List.mem_cons]
    exact (List.mem_append.mp hother).imp_right .inr
  · rintro ⟨hother, hne⟩
    rw [hallow, List.mem_append, List.mem_cons] at hother
    rcases hother with hbefore | rfl | hafter
    · exact List.mem_append_left _ hbefore
    · contradiction
    · exact List.mem_append_right _ hafter

theorem remove (window : Int) : HasDistinctIds ⟨before ++ after, window⟩ := by
  refine ⟨fun other hother => h.id_text other ((h.mem_split_iff hallow).mp hother).1, ?_⟩
  have hsublist : (before ++ after).Sublist policy.allow := by
    rw [hallow]
    exact (List.Sublist.refl before).append (List.sublist_cons_self entry after)
  exact h.id_nodup.sublist (hsublist.map AllowEntry.id)

private theorem entryFor_remove_self (window : Int) :
    entryFor ⟨before ++ after, window⟩ entry.id = none := by
  rw [Option.eq_none_iff_forall_not_mem]
  intro other hother
  obtain ⟨hmem, hid⟩ := (h.remove hallow window).entryFor_eq_some_iff.mp hother
  exact h.ne_of_split hallow other hmem hid

private theorem entryFor_remove_of_ne (window : Int) {id : Json} (hne : id ≠ entry.id) :
    entryFor ⟨before ++ after, window⟩ id = policy.entryFor id := by
  apply Option.ext
  intro other
  rw [(h.remove hallow window).entryFor_eq_some_iff, h.entryFor_eq_some_iff, h.mem_split_iff hallow, and_assoc]
  apply and_congr_right
  intro _
  constructor
  · exact And.right
  · rintro rfl
    exact ⟨hne, rfl⟩

end Policy.HasDistinctIds

namespace Evaluation

def unreviewed (warning : AdvisoryWarning) : Violation :=
  ⟨.unreviewedAdvisory, warning.advisoryId, "unreviewed advisory " ++ warning.advisoryId.text ++ " (" ++
    (warning.packageName.orElse (.str "unknown-package")).text ++ ")"⟩

section
variable {report : AdvisoryReport} {policy : Policy} {today : Date}

private theorem ofWarning_of_unreviewed {warning : AdvisoryWarning}
    (hid : warning.advisoryId.filled = true)
    (hnone : policy.entryFor warning.advisoryId = none) : ofWarning policy today warning = [unreviewed warning] := by
  simp [ofWarning, hid, hnone, unreviewed]

private theorem staleness_of_not_mem {ids : List Json} {entry : AllowEntry}
    (htext : ∃ s, entry.id = .str s)
    (h : entry.id ∉ ids) : staleness ids entry = [stale entry.id] := by
  have hne := mt (staleness_eq_nil_iff htext).mp h
  unfold staleness at hne ⊢
  split_ifs at hne ⊢
  · exact absurd rfl hne
  · rfl

variable (hpolicy : policy.HasDistinctIds)
include hpolicy

/-- In a report without violations the advisories with an exception are those that are reported. -/
private theorem mem_advisoryIds_iff_of_clean {ids : List Json}
    (hreported : report.advisoryIds = .ok ids)
    (hclean : violations report policy today = .ok []) (id : Json) :
    id ∈ ids ↔ ∃ entry ∈ policy.allow, entry.id = id := by
  obtain ⟨_, hwarned, hlisted⟩ := (violations_eq_nil_iff_of_ids hreported hpolicy.id_text today).mp hclean
  constructor
  · intro hmem
    obtain ⟨warning, hwarning, rfl⟩ := AdvisoryReport.exists_warning_of_mem_advisoryIds hreported hmem
    obtain ⟨_, entry, _, hentry, _⟩ := ofWarning_eq_nil_iff_passes.mp (hwarned warning hwarning)
    exact ⟨entry, hpolicy.entryFor_eq_some_iff.mp hentry⟩
  · rintro ⟨entry, hentry, rfl⟩
    exact hlisted entry hentry

/-- Without its exception a finding that was waived is unreviewed, and any other is waived still. -/
private theorem ofWarning_of_removed_entry {before after : List AllowEntry} {entry : AllowEntry}
    (hallow : policy.allow = before ++ entry :: after) {s : Text} (hs : entry.id = .str s) {warning : AdvisoryWarning}
    (hwaived : ofWarning policy today warning = []) :
    ofWarning ⟨before ++ after, policy.window⟩ today warning =
      if warning.isAbout s then [unreviewed warning] else [] := by
  obtain ⟨hfilled, _⟩ := ofWarning_eq_nil_iff_passes.mp hwaived
  split_ifs with habout
  · have hid : warning.advisoryId = entry.id := (AdvisoryWarning.isAbout_iff.mp habout).trans hs.symm
    apply ofWarning_of_unreviewed hfilled
    rw [hid]
    exact hpolicy.entryFor_remove_self hallow policy.window
  · have hne : warning.advisoryId ≠ entry.id := by
      rw [hs]
      exact mt AdvisoryWarning.isAbout_iff.mpr habout
    rw [ofWarning_congr (hpolicy.entryFor_remove_of_ne hallow policy.window hne) rfl, hwaived]

variable (hids : report.HasTextIds) (hclean : violations report policy today = .ok [])
include hids hclean

/-- Without an exception the findings of its advisory are unreviewed, and nothing else is wrong. -/
private theorem violations_of_removed_entry {before after : List AllowEntry} {entry : AllowEntry}
    (hallow : policy.allow = before ++ entry :: after) {s : Text} (hs : entry.id = .str s) :
    violations report ⟨before ++ after, policy.window⟩ today =
      .ok ((report.warnings.filter (·.isAbout s)).map unreviewed) := by
  obtain ⟨ids, hreported⟩ := hids.exists_advisoryIds
  obtain ⟨hvulnerable, hwarned, hlisted⟩ := (violations_eq_nil_iff_of_ids hreported hpolicy.id_text today).mp hclean
  have hfindings := flatMap_eq_map_filter fun warning hwarning =>
    ofWarning_of_removed_entry hpolicy hallow hs (hwarned warning hwarning)
  have hstale : (before ++ after).flatMap (staleness ids) = [] := by
    rw [List.flatMap_eq_nil_iff]
    intro other hother
    have hmem := ((hpolicy.mem_split_iff hallow).mp hother).1
    exact (staleness_eq_nil_iff (hpolicy.id_text other hmem)).mpr (hlisted other hmem)
  rw [violations_eq_ok hreported (hpolicy.remove hallow policy.window).id_text, hvulnerable, hfindings, hstale]
  simp

/-- Without the findings of an advisory its exception is stale, and nothing else is wrong. -/
private theorem violations_of_removed_findings {ids : List Json}
    (hreported : report.advisoryIds = .ok ids) {s : Text}
    (hs : .str s ∈ ids) : violations (report.without s) policy today = .ok [stale (.str s)] := by
  obtain ⟨hvulnerable, hwarned, hlisted⟩ := (violations_eq_nil_iff_of_ids hreported hpolicy.id_text today).mp hclean
  obtain ⟨others, hothers⟩ := (hids.without s).exists_advisoryIds
  have hmem := AdvisoryReport.str_mem_advisoryIds_without hreported hothers
  obtain ⟨entry, hentry, hid⟩ := (mem_advisoryIds_iff_of_clean hpolicy hreported hclean (.str s)).mp hs
  obtain ⟨before, after, hallow⟩ := List.append_of_mem hentry
  have hgone : staleness others entry = [stale (.str s)] := by
    rw [← hid]
    apply staleness_of_not_mem ⟨s, hid⟩
    rw [hid, hmem]
    exact fun h => h.1 rfl
  have hkept : ∀ other ∈ before ++ after, staleness others other = [] := by
    intro other hother
    obtain ⟨hin, hne⟩ := (hpolicy.mem_split_iff hallow).mp hother
    obtain ⟨t, ht⟩ := hpolicy.id_text other hin
    rw [staleness_eq_nil_iff ⟨t, ht⟩, ht, hmem]
    refine ⟨?_, ht ▸ hlisted other hin⟩
    rintro rfl
    exact hne (ht.trans hid.symm)
  obtain ⟨hbefore, hafter⟩ := List.forall_mem_append.mp hkept
  have hfindings : (report.without s).warnings.flatMap (ofWarning policy today) = [] := by
    rw [List.flatMap_eq_nil_iff, AdvisoryReport.warnings_without]
    exact fun warning hwarning => hwarned warning (List.mem_of_mem_filter hwarning)
  have hnone : (report.without s).vulnerabilities = [] := hvulnerable
  rw [violations_eq_ok hothers hpolicy.id_text, hnone, hfindings, hallow, List.flatMap_append, List.flatMap_cons,
    List.flatMap_eq_nil_iff.mpr hbefore, List.flatMap_eq_nil_iff.mpr hafter, hgone]
  rfl

end

/-- The exceptions of a report without violations are for the advisories that it reports, and none
can be spared: without it exactly the findings of its advisory are violations, each as unreviewed.
Nor can the findings of an advisory: without them exactly its exception is one, as stale. -/
theorem clean_allow_is_exact {report : AdvisoryReport} {policy : Policy} {today : Date}
    (hids : report.HasTextIds)
    (hpolicy : policy.HasDistinctIds) (hclean : violations report policy today = .ok []) :
    ∃ ids, report.advisoryIds = .ok ids ∧ (∀ id, id ∈ ids ↔ ∃ entry ∈ policy.allow, entry.id = id) ∧
      (∀ before entry after s, policy.allow = before ++ entry :: after → entry.id = .str s →
        violations report ⟨before ++ after, policy.window⟩ today =
          .ok ((report.warnings.filter (·.isAbout s)).map unreviewed)) ∧
      ∀ s, .str s ∈ ids → violations (report.without s) policy today = .ok [stale (.str s)] := by
  obtain ⟨ids, hreported⟩ := hids.exists_advisoryIds
  refine ⟨ids, hreported, mem_advisoryIds_iff_of_clean hpolicy hreported hclean, ?_, ?_⟩
  · intro before entry after s hallow hs
    exact violations_of_removed_entry hpolicy hids hclean hallow hs
  · intro s hs
    exact violations_of_removed_findings hpolicy hids hclean hreported hs

def sharedReport : AdvisoryReport :=
  ⟨[], [⟨.unmaintained, .str "RUSTSEC-2024-0001", .str "serde"⟩], [⟨.unsound, .str "RUSTSEC-2024-0002", .null⟩],
    [⟨.notice, .str "RUSTSEC-2024-0001", .null⟩]⟩

def sharedPolicy : Policy :=
  ⟨[⟨.str "RUSTSEC-2024-0001", some ⟨2025, 3, 31, rfl⟩⟩, ⟨.str "RUSTSEC-2024-0002", some ⟨2025, 2, 15, rfl⟩⟩], 45⟩

/-- The exception in two categories is missed twice, and is stale once. -/
theorem clean_allow_is_exact_shared :
    violations sharedReport sharedPolicy ⟨2025, 2, 15, rfl⟩ = .ok [] ∧
      violations sharedReport ⟨[⟨.str "RUSTSEC-2024-0002", some ⟨2025, 2, 15, rfl⟩⟩], 45⟩ ⟨2025, 2, 15, rfl⟩ =
        .ok [unreviewed ⟨.unmaintained, .str "RUSTSEC-2024-0001", .str "serde"⟩,
          unreviewed ⟨.notice, .str "RUSTSEC-2024-0001", .null⟩] ∧
      violations (sharedReport.without "RUSTSEC-2024-0001") sharedPolicy ⟨2025, 2, 15, rfl⟩ =
        .ok [stale (.str "RUSTSEC-2024-0001")] := by
  have hids : sharedReport.HasTextIds := by
    simp [AdvisoryReport.HasTextIds, sharedReport, AdvisoryReport.warnings]
  have hpolicy : sharedPolicy.HasDistinctIds := by
    constructor <;> simp [sharedPolicy, Text.ofString]
  have hclean : violations sharedReport sharedPolicy ⟨2025, 2, 15, rfl⟩ = .ok [] := rfl
  obtain ⟨ids, _, hmem, hremoved, hwithout⟩ := clean_allow_is_exact hids hpolicy hclean
  refine ⟨hclean, hremoved [] _ _ "RUSTSEC-2024-0001" rfl rfl, hwithout _ ?_⟩
  exact (hmem _).mpr ⟨_, List.mem_cons_self, rfl⟩

end Evaluation

end CrateGuard
