import CrateGuard.Proofs.Advisory.Verdict

/-! The violations of a report, one by one. Each vulnerability is one, whatever the policy allows. A
lesser finding is at most one, for the first reason that applies, and a review date gives no two
reasons: the deadline is never before today, not even at the end of the calendar. Last come the
exceptions that no finding asks for. An exception with an empty id is always among them, since an
empty id of a finding counts as none. -/

namespace CrateGuard

/-- What the violation of a lesser finding is about: its advisory, or its package where it names no
advisory. -/
def AdvisoryWarning.subject (warning : AdvisoryWarning) : Json :=
  if warning.advisoryId.filled then warning.advisoryId else warning.packageName.orElse (.str "unknown-package")

namespace Policy

/-- The number of the last day up to which an exception may be granted. -/
def deadline (policy : Policy) (today : Date) : Int :=
  min (today.dayNumber + policy.window) Date.last.dayNumber

/-- The first exception for an advisory: those before it are for others. -/
def IsFirstFor (policy : Policy) (id : Json) (entry : AllowEntry) : Prop :=
  entry.id = id ∧ ∃ before after, policy.allow = before ++ entry :: after ∧ ∀ other ∈ before, other.id ≠ id

/-- What a policy rules on a finding with the given id: the kind of violation that it is, or that it
is none. -/
inductive Rules (policy : Policy) (today : Date) (id : Json) : Option ViolationKind → Prop
  | missingAdvisoryId (hid : id.filled = false) : Rules policy today id (some .missingAdvisoryId)
  | unreviewedAdvisory (hid : id.filled = true) (hnone : ∀ entry ∈ policy.allow, entry.id ≠ id) :
    Rules policy today id (some .unreviewedAdvisory)
  | missingReviewDate {entry : AllowEntry} (hid : id.filled = true) (hfirst : policy.IsFirstFor id entry)
      (hdate : entry.reviewBy = none) : Rules policy today id (some .missingReviewDate)
  | reviewWindowExceeded {entry : AllowEntry} {reviewBy : Date} (hid : id.filled = true)
      (hfirst : policy.IsFirstFor id entry) (hdate : entry.reviewBy = some reviewBy)
      (hlate : policy.deadline today < reviewBy.dayNumber) : Rules policy today id (some .reviewWindowExceeded)
  | exceptionExpired {entry : AllowEntry} {reviewBy : Date} (hid : id.filled = true)
      (hfirst : policy.IsFirstFor id entry) (hdate : entry.reviewBy = some reviewBy)
      (hto : reviewBy.dayNumber ≤ policy.deadline today) (hexpired : reviewBy.dayNumber < today.dayNumber) :
    Rules policy today id (some .exceptionExpired)
  | waived {entry : AllowEntry} {reviewBy : Date} (hid : id.filled = true) (hfirst : policy.IsFirstFor id entry)
      (hdate : entry.reviewBy = some reviewBy) (hto : reviewBy.dayNumber ≤ policy.deadline today)
      (hfrom : today.dayNumber ≤ reviewBy.dayNumber) : Rules policy today id none

def ruling (policy : Policy) (today : Date) (id : Json) : Option ViolationKind :=
  if !id.filled then some .missingAdvisoryId
  else match policy.entryFor id with
    | none => some .unreviewedAdvisory
    | some entry =>
      match entry.reviewBy with
      | none => some .missingReviewDate
      | some reviewBy =>
        if policy.deadline today < reviewBy.dayNumber then some .reviewWindowExceeded
        else if reviewBy.dayNumber < today.dayNumber then some .exceptionExpired
        else none

section
variable {policy : Policy} (htexts : ∀ entry ∈ policy.allow, ∃ s, entry.id = .str s) {id : Json}
include htexts

private theorem entryFor_eq_none_iff_of_texts : policy.entryFor id = none ↔
    ∀ entry ∈ policy.allow, entry.id ≠ id := by
  rw [entryFor, List.find?_eq_none]
  exact forall₂_congr fun entry hentry => not_congr (Json.equals_iff_of_text (htexts entry hentry))

private theorem entryFor_eq_some_iff_isFirstFor {entry : AllowEntry} :
    policy.entryFor id = some entry ↔ policy.IsFirstFor id entry := by
  have hequals : ∀ other ∈ policy.allow, (other.id.equals id = true ↔ other.id = id) := fun other hother =>
    Json.equals_iff_of_text (htexts other hother)
  rw [entryFor, List.find?_eq_some_iff_append]
  constructor
  · rintro ⟨hid, before, after, hallow, hbefore⟩
    have hmem : ∀ other ∈ before ++ entry :: after, other ∈ policy.allow := fun _ h => hallow ▸ h
    refine ⟨(hequals entry (hmem entry (by simp))).mp hid, before, after, hallow, ?_⟩
    intro other hother
    have hother' := hbefore other hother
    rwa [Bool.not_eq_true', ← Bool.not_eq_true, hequals other (hmem other (List.mem_append_left _ hother))] at hother'
  · rintro ⟨hid, before, after, hallow, hbefore⟩
    have hmem : ∀ other ∈ before ++ entry :: after, other ∈ policy.allow := fun _ h => hallow ▸ h
    refine ⟨(hequals entry (hmem entry (by simp))).mpr hid, before, after, hallow, ?_⟩
    intro other hother
    rw [Bool.not_eq_true', ← Bool.not_eq_true, hequals other (hmem other (List.mem_append_left _ hother))]
    exact hbefore other hother

/-- A policy with texts for ids rules on each finding, in one way only. -/
private theorem rules_iff {today : Date} {kind : Option ViolationKind} :
    policy.Rules today id kind ↔ policy.ruling today id = kind := by
  constructor
  · intro h
    cases h with
    | missingAdvisoryId hid => simp [ruling, hid]
    | unreviewedAdvisory hid hnone => simp [ruling, hid, (entryFor_eq_none_iff_of_texts htexts).mpr hnone]
    | missingReviewDate hid hfirst hdate =>
      simp [ruling, hid, (entryFor_eq_some_iff_isFirstFor htexts).mpr hfirst, hdate]
    | reviewWindowExceeded hid hfirst hdate hlate =>
      simp [ruling, hid, (entryFor_eq_some_iff_isFirstFor htexts).mpr hfirst, hdate, hlate]
    | exceptionExpired hid hfirst hdate hto hexpired =>
      simp [ruling, hid, (entryFor_eq_some_iff_isFirstFor htexts).mpr hfirst, hdate, hto.not_gt, hexpired]
    | waived hid hfirst hdate hto hfrom =>
      simp [ruling, hid, (entryFor_eq_some_iff_isFirstFor htexts).mpr hfirst, hdate, hto.not_gt, hfrom.not_gt]
  · rintro rfl
    rw [ruling]
    cases hid : id.filled with
    | false => exact .missingAdvisoryId hid
    | true =>
      cases hentry : policy.entryFor id with
      | none => exact .unreviewedAdvisory hid ((entryFor_eq_none_iff_of_texts htexts).mp hentry)
      | some entry =>
        have hfirst := (entryFor_eq_some_iff_isFirstFor htexts).mp hentry
        cases hdate : entry.reviewBy with
        | none => simpa [hdate] using Rules.missingReviewDate hid hfirst hdate
        | some reviewBy =>
          simp only [hdate, Bool.not_true, Bool.false_eq_true, if_false]
          split_ifs with hlate hexpired
          · exact .reviewWindowExceeded hid hfirst hdate hlate
          · exact .exceptionExpired hid hfirst hdate (not_lt.mp hlate) hexpired
          · exact .waived hid hfirst hdate (not_lt.mp hlate) (not_lt.mp hexpired)

end

end Policy

namespace Evaluation

section
variable {policy : Policy} {report : AdvisoryReport}

private theorem map_ground_ofWarning (hwindow : 0 ≤ policy.window) (today : Date)
    (warning : AdvisoryWarning) :
    (ofWarning policy today warning).map Violation.ground =
      ((policy.ruling today warning.advisoryId).map fun kind => (kind, warning.subject)).toList := by
  simp only [ofWarning, Policy.ruling, AdvisoryWarning.subject]
  cases hid : warning.advisoryId.filled with
  | false => rfl
  | true =>
    cases hentry : policy.entryFor warning.advisoryId with
    | none => rfl
    | some entry =>
      cases hdate : entry.reviewBy with
      | none => simp [hdate, Violation.ground]
      | some reviewBy =>
        have hdeadline := dayNumber_reviewDeadline today hwindow
        rw [← Policy.deadline] at hdeadline
        simp only [hdate, ← hdeadline, Int.ofNat_lt, Bool.not_true, Bool.false_eq_true, if_false]
        obtain ⟨_, hcases⟩ := ofReviewDate_cases warning.advisoryId reviewBy
        rcases hcases hwindow today with ⟨hlate, _, hfound⟩ | ⟨hexpired, hfound⟩ | ⟨hfrom, hto, hfound⟩
        · rw [hfound, if_pos hlate]
          rfl
        · have hto := hexpired.le.trans (le_reviewDeadline today hwindow)
          rw [hfound, if_neg hto.not_gt, if_pos hexpired]
          rfl
        · rw [hfound, if_neg hto.not_gt, if_neg hfrom.not_gt]
          rfl

private theorem map_ground_flatMap_staleness (ids : List Json) (allow : List AllowEntry) :
    (allow.flatMap (staleness ids)).map Violation.ground =
      (allow.filter fun entry => !ids.any entry.id.same).map fun entry => (.staleAllowlistEntry, entry.id) := by
  have hstale : ∀ entry ∈ allow, staleness ids entry = if !ids.any entry.id.same then [stale entry.id] else [] := by
    intro entry _
    rw [staleness]
    cases ids.any entry.id.same <;> rfl
  rw [flatMap_eq_map_filter hstale, List.map_map]
  rfl

private theorem not_any_same_iff {ids : List Json} (hids : report.advisoryIds = .ok ids)
    {entry : AllowEntry}
    (htext : ∃ s, entry.id = .str s) : (!ids.any entry.id.same) = true ↔
      entry.id = .str [] ∨ ∀ warning ∈ report.warnings, warning.advisoryId ≠ entry.id := by
  have hmem : ids.any entry.id.same = true ↔ entry.id ∈ ids := by
    obtain ⟨s, hs⟩ := htext
    simp [hs, List.any_eq_true]
  obtain ⟨s, hs⟩ := htext
  rw [Bool.not_eq_true', ← Bool.not_eq_true, hmem, hs, AdvisoryReport.str_mem_advisoryIds hids]
  by_cases hempty : s = []
  · simp [hempty]
  · simp [hempty]

/-- The violations of a report are its vulnerabilities, whatever the policy and the day; then, for
each lesser finding in order, the one that the policy rules on it, if any; and then the exceptions
with an id that is empty or that no finding has. -/
theorem violations_listed (hids : report.HasTextIds)
    (htexts : ∀ entry ∈ policy.allow, ∃ s, entry.id = .str s)
    (hwindow : 0 ≤ policy.window) (today : Date) :
    (∀ id kind, policy.Rules today id kind ↔ policy.ruling today id = kind) ∧
    ∃ (found : List Violation) (isStale : AllowEntry → Bool), violations report policy today = .ok found ∧
      report.vulnerabilities.map ofVulnerability <+: found ∧
      found.map Violation.ground =
        (report.vulnerabilities.map fun vulnerability => (.vulnerability, vulnerability.id)) ++
          (report.warnings.filterMap fun warning =>
            (policy.ruling today warning.advisoryId).map fun kind => (kind, warning.subject)) ++
          ((policy.allow.filter isStale).map fun entry => (.staleAllowlistEntry, entry.id)) ∧
      ∀ entry ∈ policy.allow,
        (isStale entry = true ↔
          entry.id = .str [] ∨ ∀ warning ∈ report.warnings, warning.advisoryId ≠ entry.id) := by
  refine ⟨fun _ _ => Policy.rules_iff htexts, ?_⟩
  obtain ⟨ids, hreported⟩ := hids.exists_advisoryIds
  refine ⟨_, fun entry => !ids.any entry.id.same, violations_eq_ok hreported htexts today, ?_, ?_, ?_⟩
  · rw [List.append_assoc]
    exact List.prefix_append _ _
  · rw [List.map_append, List.map_append, List.map_map, List.map_flatMap, map_ground_flatMap_staleness,
      List.filterMap_eq_flatMap_toList]
    simp only [map_ground_ofWarning hwindow]
    rfl
  · exact fun entry hentry => not_any_same_iff hreported (htexts entry hentry)

end

def variedReport : AdvisoryReport :=
  ⟨[⟨.str "RUSTSEC-2024-0009", .str "time", .str "0.1.0"⟩],
    [⟨.unmaintained, .str "RUSTSEC-2024-0001", .str "serde"⟩, ⟨.unmaintained, .str "RUSTSEC-2024-0002", .null⟩],
    [⟨.unsound, .str "RUSTSEC-2024-0003", .null⟩, ⟨.unsound, .str "RUSTSEC-2024-0004", .null⟩],
    [⟨.notice, .null, .null⟩, ⟨.notice, .str "RUSTSEC-2024-0005", .null⟩]⟩

/-- Exceptions that have expired, that reach too far, that have no date and that are in order, and a
stale one. -/
def variedPolicy : Policy :=
  ⟨[⟨.str "RUSTSEC-2024-0001", some ⟨2024, 1, 14, rfl⟩⟩, ⟨.str "RUSTSEC-2024-0002", some ⟨2024, 3, 1, rfl⟩⟩,
    ⟨.str "RUSTSEC-2024-0003", none⟩, ⟨.str "RUSTSEC-2024-0005", some ⟨2024, 2, 29, rfl⟩⟩,
    ⟨.str "RUSTSEC-2024-0006", none⟩], 45⟩

/-- Each kind of violation is found once, and an exception up to the deadline is in order. -/
theorem violations_listed_varied :
    ∃ found, violations variedReport variedPolicy ⟨2024, 1, 15, rfl⟩ = .ok found ∧
      found.map Violation.ground =
        [(.vulnerability, .str "RUSTSEC-2024-0009"), (.exceptionExpired, .str "RUSTSEC-2024-0001"),
          (.reviewWindowExceeded, .str "RUSTSEC-2024-0002"), (.missingReviewDate, .str "RUSTSEC-2024-0003"),
          (.unreviewedAdvisory, .str "RUSTSEC-2024-0004"), (.missingAdvisoryId, .str "unknown-package"),
          (.staleAllowlistEntry, .str "RUSTSEC-2024-0006")] := by
  have hids : variedReport.HasTextIds := by
    simp [AdvisoryReport.HasTextIds, variedReport, AdvisoryReport.warnings]
  have htexts : ∀ entry ∈ variedPolicy.allow, ∃ s, entry.id = .str s := by
    simp [variedPolicy]
  obtain ⟨_, found, isStale, hfound, _, hgrounds, hstale⟩ :=
    violations_listed hids htexts (by decide) ⟨2024, 1, 15, rfl⟩
  have hfilter : variedPolicy.allow.filter isStale = [⟨.str "RUSTSEC-2024-0006", none⟩] := by
    have hkept : variedPolicy.allow.filter isStale =
        variedPolicy.allow.filter fun entry => entry.id.same (.str "RUSTSEC-2024-0006") := by
      apply List.filter_congr
      intro entry hentry
      rw [Bool.eq_iff_iff, hstale entry hentry]
      revert entry
      simp [variedPolicy, variedReport, AdvisoryReport.warnings, Text.ofString]
    rw [hkept]
    rfl
  refine ⟨found, hfound, ?_⟩
  rw [hgrounds, hfilter]
  rfl

def emptyIdReport : AdvisoryReport :=
  ⟨[], [], [], [⟨.notice, .str [], .str "serde"⟩]⟩

def emptyIdPolicy : Policy :=
  ⟨[⟨.str [], some ⟨2024, 1, 20, rfl⟩⟩], 45⟩

/-- An exception can be stale though some finding has its id: if that is empty. -/
theorem emptyId_is_stale :
    (∀ entry ∈ emptyIdPolicy.allow, ∃ warning ∈ emptyIdReport.warnings, warning.advisoryId = entry.id) ∧
      ∃ found, violations emptyIdReport emptyIdPolicy ⟨2024, 1, 15, rfl⟩ = .ok found ∧
        found.map Violation.ground = [(.missingAdvisoryId, .str "serde"), (.staleAllowlistEntry, .str [])] := by
  constructor
  · simp [emptyIdPolicy, emptyIdReport, AdvisoryReport.warnings]
  · exact ⟨_, rfl, rfl⟩

end Evaluation

end CrateGuard
