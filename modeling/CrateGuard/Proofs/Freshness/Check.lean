import Mathlib.Data.List.Forall2
import Mathlib.Tactic.SplitIfs
import CrateGuard.Freshness.Check
import CrateGuard.Freshness.Violations
import CrateGuard.Proofs.Json.Views
import CrateGuard.Proofs.Run
import CrateGuard.Proofs.Text.Order
import CrateGuard.Proofs.Version.Highest

/-! The freshness check on texts that are not at fault for a numeral. Every watched package gets an
outcome of its own, in order, whatever the others and the answers of the registry are. The outcome
counts against the run unless the package can be compared and, where updates fail the run, some
resolved version is as high as the latest release. The mode of the run plays no part in that. -/

namespace CrateGuard

/-- An answer that is a text with short numerals, or a failure of any kind. -/
def Lookup.IsPlain : Lookup → Prop
  | .found version => ∃ s, version = .str s ∧ Version.HasShortRuns s
  | .refused _ => True
  | .broken _ => True

/-- An answer that is no text at fault for a numeral. -/
def Lookup.IsDecided (answer : Lookup) : Prop :=
  ∀ s, answer = .found (.str s) → Version.IsDecided s

theorem Lookup.IsPlain.isDecided {answer : Lookup} (h : answer.IsPlain) : answer.IsDecided := by
  rintro s rfl
  obtain ⟨t, ht, hruns⟩ := h
  cases ht
  exact hruns.isDecided

def Lookup.IsVersion (answer : Lookup) : Prop :=
  ∃ s v, answer = .found (.str s) ∧ Version.parse s = .ok v

/-- A watched package that a run has nothing against: one of its versions can be read, its latest
release is a version, and if updates fail the run then some version is as high as that. -/
def Watched.IsFresh (dependency : Watched) (present : Text → Prop) (answer : Lookup) : Prop :=
  (∃ t w, present t ∧ Version.parse t = .ok w) ∧
    ∃ s v, answer = .found (.str s) ∧ Version.parse s = .ok v ∧
      (dependency.failOnUpdate = false ∨
        ∃ t w, present t ∧ Version.parse t = .ok w ∧ (w.precedence v).isGE)

def HasVersion (present : Text → Prop) : Prop :=
  ∃ t w, present t ∧ Version.parse t = .ok w

theorem HasVersion.mono {present others : Text → Prop} (h : HasVersion present)
    (hgrows : ∀ t, present t → others t) :
    HasVersion others := by
  obtain ⟨t, w, ht, hw⟩ := h
  exact ⟨t, w, hgrows t ht, hw⟩

/-- What the outcome for a watched package tells, given its versions and the answer of the
registry. -/
structure DependencyOutcome.Accounts (present : Text → Prop) (dependency : Watched) (answer : Lookup)
    (outcome : DependencyOutcome) : Prop where
  dependency_eq : outcome.dependency = dependency
  missing_iff : outcome.freshness = .missing ↔ ¬HasVersion present
  fetchError_iff : outcome.freshness = .fetchError ↔ HasVersion present ∧ ¬answer.IsVersion
  fresh_iff : outcome.isViolation = false ↔ dependency.IsFresh present answer

namespace DependencyOutcome

/-- An outcome that fails the run: nothing could be compared, or a newer release is out and updates
fail the run. -/
def Fails (outcome : DependencyOutcome) : Prop :=
  outcome.freshness = .missing ∨ outcome.freshness = .fetchError ∨
    outcome.isOutdated = true ∧ outcome.dependency.failOnUpdate = true

instance (outcome : DependencyOutcome) : Decidable outcome.Fails :=
  inferInstanceAs (Decidable (outcome.freshness = .missing ∨ outcome.freshness = .fetchError ∨
    outcome.isOutdated = true ∧ outcome.dependency.failOnUpdate = true))

def failure (outcome : DependencyOutcome) : ViolationKind × Json :=
  (match outcome.freshness with
    | .missing => .missingDependency
    | .fetchError => .fetchFailed
    | _ => .outdatedDependency, .str outcome.dependency.name)

theorem violation?_ground_eq (outcome : DependencyOutcome) :
    outcome.violation?.map Violation.ground = if outcome.Fails then some outcome.failure else none := by
  cases outcome with
  | mk dependency freshness current latest detail =>
    cases freshness with
    | outdatedWarn | outdatedFail =>
      cases hfail : dependency.failOnUpdate <;>
        simp [violation?, isViolation, isOutdated, Freshness.isUnknown, Freshness.isOutdated, Fails, hfail, failure,
          Violation.ground]
    | _ => rfl

/-- There is one violation for each outcome that fails the run, in order. -/
theorem violations_ground_eq (outcomes : List DependencyOutcome) :
    (violations outcomes).map Violation.ground = (outcomes.filter (·.Fails)).map failure := by
  induction outcomes with
  | nil => rfl
  | cons outcome rest ih =>
    have hone := violation?_ground_eq outcome
    by_cases hfails : outcome.Fails
    · rw [if_pos hfails] at hone
      obtain ⟨violation, hviolation, hground⟩ := Option.map_eq_some_iff.mp hone
      rw [violations, List.filterMap_cons_some hviolation, ← violations, List.map_cons, hground, ih,
        List.filter_cons, if_pos (decide_eq_true hfails), List.map_cons]
    · rw [if_neg hfails, Option.map_eq_none_iff] at hone
      rw [violations, List.filterMap_cons_none hone, ← violations, ih, List.filter_cons, decide_eq_false hfails]
      rfl

private theorem violation?_eq_none_iff {outcome : DependencyOutcome} :
    outcome.violation? = none ↔ outcome.isViolation = false := by
  unfold violation?
  cases hviolation : outcome.isViolation with
  | false => simp
  | true =>
    dsimp only
    cases outcome.freshness <;> simp

theorem violations_eq_nil_iff {outcomes : List DependencyOutcome} :
    violations outcomes = [] ↔ ∀ outcome ∈ outcomes, outcome.isViolation = false := by
  rw [violations, List.filterMap_eq_nil_iff]
  exact forall₂_congr fun _ _ => violation?_eq_none_iff

end DependencyOutcome

namespace Freshness

private theorem textsOf_map_str (texts : List Text) :
    Version.textsOf (texts.map Json.str) = texts := by
  induction texts with
  | nil => rfl
  | cons t rest ih => rw [List.map_cons, Version.textsOf, List.filterMap_cons, ← Version.textsOf, ih]

private theorem exists_map_str {versions : List Json}
    (h : ∀ version ∈ versions, ∃ t, version = .str t) :
    ∃ texts : List Text, versions = texts.map Json.str := by
  induction versions with
  | nil => exact ⟨[], rfl⟩
  | cons version rest ih =>
    obtain ⟨⟨t, rfl⟩, hrest⟩ := List.forall_mem_cons.mp h
    obtain ⟨texts, rfl⟩ := ih hrest
    exact ⟨t :: texts, rfl⟩

/-- A set of texts is sorted without loss. -/
theorem sortedTexts_eq_ok {versions : List Json} (h : ∀ version ∈ versions, ∃ t, version = .str t) :
    ∃ present, sortedTexts versions = .ok present ∧ (present.Pairwise fun s t => s.isAtMost t = true) ∧
      ∀ t, t ∈ present ↔ .str t ∈ versions := by
  obtain ⟨texts, rfl⟩ := exists_map_str h
  refine ⟨texts.mergeSort Text.isAtMost, ?_, Text.pairwise_mergeSort_isAtMost texts, ?_⟩
  · rw [sortedTexts, textsOf_map_str, List.length_map, if_pos rfl]
  · intro t
    simp [List.mem_mergeSort]

theorem sortedTexts_eq_of_perm {versions others : List Json} (h : versions.Perm others) :
    sortedTexts versions = sortedTexts others := by
  have htexts : (Version.textsOf versions).Perm (Version.textsOf others) := h.filterMap _
  rw [sortedTexts, sortedTexts, htexts.length_eq, h.length_eq, Text.mergeSort_eq_of_perm htexts]

theorem decided_of_short {versions : List Json}
    (h : ∀ version ∈ versions, ∃ t, version = .str t ∧ Version.HasShortRuns t) :
    ∀ version ∈ versions, ∃ t, version = .str t ∧ Version.IsDecided t := by
  intro version hversion
  obtain ⟨t, ht, hruns⟩ := h version hversion
  exact ⟨t, ht, hruns.isDecided⟩

theorem isDecided_of_mem {versions : List Json} {present : List Text}
    (h : ∀ version ∈ versions, ∃ t, version = .str t ∧ Version.IsDecided t)
    (hmem : ∀ t, t ∈ present ↔ .str t ∈ versions) : ∀ t ∈ present, Version.IsDecided t := by
  intro t ht
  obtain ⟨u, hu, hdecided⟩ := h _ ((hmem t).mp ht)
  cases hu
  exact hdecided

theorem ofOrder_known (dependency : Watched) (advisory : Bool) (order : Ordering) :
    ofOrder dependency advisory order ≠ .missing ∧ ofOrder dependency advisory order ≠ .fetchError := by
  cases order with
  | lt => simp [ofOrder]
  | eq => simp [ofOrder]
  | gt =>
    simp only [ofOrder]
    split_ifs <;> simp

/-- A package that was compared counts against the run if its latest release is higher and updates
fail the run. -/
private theorem isViolation_compared {dependency : Watched} {advisory : Bool} {v w : Version}
    {current latest detail : Option Text} :
    DependencyOutcome.isViolation
        ⟨dependency, ofOrder dependency advisory (v.precedence w), current, latest, detail⟩ = false ↔
      dependency.failOnUpdate = false ∨ (w.precedence v).isGE := by
  have hhigher : (w.precedence v).isGE ↔ v.precedence w ≠ .gt := by
    rw [Std.OrientedCmp.isGE_iff_isLE, Ordering.isLE_iff_ne_gt]
  rw [hhigher, DependencyOutcome.isViolation, DependencyOutcome.isOutdated]
  cases v.precedence w with
  | lt => simp [ofOrder, isUnknown, isOutdated]
  | eq => simp [ofOrder, isUnknown, isOutdated]
  | gt =>
    simp only [ofOrder]
    split_ifs <;> simp [isUnknown, isOutdated]

private theorem isFresh_iff_of_isHighest {present : List Text} {current : Text} {w : Version}
    (h : Version.IsHighest present (some (current, w))) (dependency : Watched) (answer : Lookup) :
    dependency.IsFresh (· ∈ present) answer ↔ ∃ s v, answer = .found (.str s) ∧ Version.parse s = .ok v ∧
      (dependency.failOnUpdate = false ∨ (w.precedence v).isGE) := by
  constructor
  · rintro ⟨_, s, v, hs, hv, hfresh⟩
    refine ⟨s, v, hs, hv, hfresh.imp_right ?_⟩
    rintro ⟨t, u, ht, hu, hge⟩
    exact Std.TransCmp.isGE_trans (Std.OrientedCmp.isGE_of_isLE (h.le ht hu)) hge
  · rintro ⟨s, v, hs, hv, hfresh⟩
    refine ⟨⟨current, w, h.mem, h.1⟩, s, v, hs, hv, hfresh.imp_right ?_⟩
    intro hge
    exact ⟨current, w, h.mem, h.1, hge⟩

private theorem accounts_missing {present : List Text} (h : Version.IsHighest present none)
    (dependency : Watched)
    (answer : Lookup) : (missingOutcome dependency present).Accounts (· ∈ present) dependency answer := by
  have hnone : ¬HasVersion (· ∈ present) := by
    rintro ⟨t, w, ht, hw⟩
    exact h t ht w hw
  refine ⟨rfl, ⟨fun _ => hnone, fun _ => rfl⟩, ⟨fun he => ?_, fun he => absurd he.1 hnone⟩, ?_⟩
  · cases he
  · constructor
    · intro he
      cases he
    · exact fun hfresh => absurd hfresh.1 hnone

private theorem accounts_unfetched {present : List Text} {current : Text} {w : Version}
    (h : Version.IsHighest present (some (current, w))) (dependency : Watched) (detail : Text)
    {answer : Lookup} (hanswer : ¬answer.IsVersion) :
    (unfetched dependency current detail).Accounts (· ∈ present) dependency answer := by
  have hsome : HasVersion (· ∈ present) := ⟨current, w, h.mem, h.1⟩
  refine ⟨rfl, ⟨fun he => ?_, fun he => absurd hsome he⟩, ⟨fun _ => ⟨hsome, hanswer⟩, fun _ => rfl⟩, ?_⟩
  · cases he
  · constructor
    · intro he
      cases he
    · rintro ⟨_, s, v, hs, hv, _⟩
      exact absurd ⟨s, v, hs, hv⟩ hanswer

private theorem accounts_compared {present : List Text} {current : Text} {w : Version}
    (h : Version.IsHighest present (some (current, w))) (dependency : Watched) (advisory : Bool) {s : Text}
    {v : Version} (hv : Version.parse s = .ok v) (detail : Option Text) :
    DependencyOutcome.Accounts (· ∈ present) dependency (.found (.str s))
      ⟨dependency, ofOrder dependency advisory (v.precedence w), some current, some s, detail⟩ := by
  have hsome : HasVersion (· ∈ present) := ⟨current, w, h.mem, h.1⟩
  have hversion : (Lookup.found (.str s)).IsVersion := ⟨s, v, rfl, hv⟩
  obtain ⟨hmissing, hfetch⟩ := ofOrder_known dependency advisory (v.precedence w)
  refine ⟨rfl, ⟨fun he => absurd he hmissing, fun he => absurd hsome he⟩,
    ⟨fun he => absurd he hfetch, fun he => absurd hversion he.2⟩, ?_⟩
  rw [isViolation_compared, isFresh_iff_of_isHighest h]
  constructor
  · intro hfresh
    exact ⟨s, v, rfl, hv, hfresh⟩
  · rintro ⟨t, u, ht, hu, hfresh⟩
    cases ht
    cases hv.symm.trans hu
    exact hfresh

/-- A package with a current version is compared with an answer that is a version, and has not been
fetched with any other answer that is not at fault. -/
theorem judge_cases {current : Text} {w : Version} (hw : Version.parse current = .ok w)
    (hshort : w.HasShortNumerals)
    (dependency : Watched) {answer : Lookup} (hdecided : answer.IsDecided) (advisory : Bool) :
    (¬answer.IsVersion ∧
        ∃ detail, (judge dependency advisory current answer).result = .ok (unfetched dependency current detail)) ∨
      ∃ s v, answer = .found (.str s) ∧ Version.parse s = .ok v ∧
        (judge dependency advisory current answer).result =
          .ok ⟨dependency, ofOrder dependency advisory (v.precedence w), some current, some s, none⟩ := by
  cases answer with
  | refused reason => exact .inl ⟨(by rintro ⟨s, v, hs, _⟩; cases hs), _, rfl⟩
  | broken failure => exact .inl ⟨(by rintro ⟨s, v, hs, _⟩; cases hs), _, rfl⟩
  | found version =>
    have hunread (hread : Version.tryOfJson version = .ok none) :
        (judge dependency advisory current (.found version)).result =
          .ok (unfetched dependency current ("unparsable latest version " ++ version.literal)) := by
      simp [judge, orCrash, hread]
    by_cases htext : ∃ s, version = .str s
    · obtain ⟨s, rfl⟩ := htext
      rcases hdecided s rfl with ⟨v, hv, hvs⟩ | ⟨refusal, hrefused⟩
      · have hread : Version.tryOfJson (.str s) = .ok (some v) := Version.tryParse_of_ok hv
        have horder := Version.orderTexts_of_parse hv hw hvs hshort
        exact .inr ⟨s, v, rfl, hv, by simp [judge, orCrash, hread, Json.text, horder]⟩
      · refine .inl ⟨?_, _, hunread (Version.tryParse_of_refused hrefused)⟩
        rintro ⟨t, u, ht, hu⟩
        cases ht
        cases hrefused.symm.trans hu
    · refine .inl ⟨?_, _, hunread (Version.tryOfJson_of_not_text fun s hs => htext ⟨s, hs⟩)⟩
      rintro ⟨t, u, ht, _⟩
      cases ht
      exact htext ⟨t, rfl⟩

private theorem judge_result {present : List Text} {current : Text} {w : Version}
    (h : Version.IsHighest present (some (current, w))) (hshort : w.HasShortNumerals) (dependency : Watched)
    {answer : Lookup} (hdecided : answer.IsDecided) (advisory : Bool) :
    ∃ outcome, (judge dependency advisory current answer).result = .ok outcome ∧
      outcome.Accounts (· ∈ present) dependency answer := by
  rcases judge_cases h.1 hshort dependency hdecided advisory with ⟨hno, detail, hresult⟩ | ⟨s, v, rfl, hv, hresult⟩
  · exact ⟨_, hresult, accounts_unfetched h dependency detail hno⟩
  · exact ⟨_, hresult, accounts_compared h dependency advisory hv none⟩

/-- A package with no version that can be read is missing without being asked for, and any other is
asked for once and judged by the answer. -/
theorem checkOne_eq {resolved : Resolved} {dependency : Watched}
    (hpresent : ∀ version ∈ resolved.versions dependency.name, ∃ t, version = .str t ∧ Version.IsDecided t)
    (lookup : Text → Run Lookup) (advisory : Bool) :
    ∃ present : List Text, (∀ t, t ∈ present ↔ .str t ∈ resolved.versions dependency.name) ∧
      (present.Pairwise fun s t => s.isAtMost t = true) ∧
      (Version.IsHighest present none ∧
          checkOne resolved lookup advisory dependency = pure (missingOutcome dependency present) ∨
        ∃ current w, Version.IsHighest present (some (current, w)) ∧ w.HasShortNumerals ∧
          checkOne resolved lookup advisory dependency =
            Run.noteLookup dependency.name >>= fun _ =>
              lookup dependency.name >>= judge dependency advisory current) := by
  obtain ⟨present, hsorted, hpairwise, hmem⟩ := sortedTexts_eq_ok fun version h =>
    have ⟨t, ht, _⟩ := hpresent version h
    ⟨t, ht⟩
  have htexts := isDecided_of_mem hpresent hmem
  refine ⟨present, hmem, hpairwise, ?_⟩
  obtain ⟨best, hbest, hhighest⟩ := Version.highest_isHighest htexts
  match best, hhighest with
  | none, hnone => exact .inl ⟨hnone, by simp [checkOne, hsorted, hbest, orCrash]⟩
  | some (current, w), hsome =>
    have hw := (htexts current hsome.mem).hasShortNumerals hsome.1
    exact .inr ⟨current, w, hsome, hw, by simp [checkOne, hsorted, hbest, orCrash]⟩

theorem checkOne_cases {resolved : Resolved} {lookup : Text → Run Lookup} {dependency : Watched}
    {answer : Lookup}
    (hpresent : ∀ version ∈ resolved.versions dependency.name, ∃ t, version = .str t ∧ Version.IsDecided t)
    (hanswer : (lookup dependency.name).result = .ok answer) (advisory : Bool) :
    ∃ present : List Text, (∀ t, t ∈ present ↔ .str t ∈ resolved.versions dependency.name) ∧
      (Version.IsHighest present none ∧
          (checkOne resolved lookup advisory dependency).result = .ok (missingOutcome dependency present) ∨
        ∃ current w, Version.IsHighest present (some (current, w)) ∧ w.HasShortNumerals ∧
          (checkOne resolved lookup advisory dependency).result =
            (judge dependency advisory current answer).result) := by
  obtain ⟨present, hmem, _, hcases⟩ := checkOne_eq hpresent lookup advisory
  refine ⟨present, hmem, ?_⟩
  rcases hcases with ⟨hnone, hone⟩ | ⟨current, w, hsome, hw, hone⟩
  · exact .inl ⟨hnone, by rw [hone, Run.result_pure]⟩
  · exact .inr ⟨current, w, hsome, hw, by simp [hone, hanswer]⟩

/-- One watched package gets an outcome, unless it can be compared and the answer is at fault. -/
theorem checkOne_result {resolved : Resolved} {lookup : Text → Run Lookup} {dependency : Watched}
    {answer : Lookup}
    (hpresent : ∀ version ∈ resolved.versions dependency.name, ∃ t, version = .str t ∧ Version.IsDecided t)
    (hanswer : (lookup dependency.name).result = .ok answer)
    (hdecided : HasVersion (fun t => .str t ∈ resolved.versions dependency.name) → answer.IsDecided)
    (advisory : Bool) :
    ∃ outcome, (checkOne resolved lookup advisory dependency).result = .ok outcome ∧
      outcome.Accounts (fun t => .str t ∈ resolved.versions dependency.name) dependency answer := by
  obtain ⟨present, hmem, hcases⟩ := checkOne_cases hpresent hanswer advisory
  have hsame : (fun t => .str t ∈ resolved.versions dependency.name) = (· ∈ present) :=
    funext fun t => propext (hmem t).symm
  rw [hsame] at hdecided ⊢
  rcases hcases with ⟨hnone, hone⟩ | ⟨current, w, hsome, hw, hone⟩
  · exact ⟨_, hone, accounts_missing hnone dependency answer⟩
  · rw [hone]
    exact judge_result hsome hw dependency (hdecided ⟨current, w, hsome.mem, hsome.1⟩) advisory

/-- The outcomes for a watch list when the registry may answer each of its entries in a way of its
own, as one does that changes between two questions. -/
def checkEach (resolved : Resolved) (advisory : Bool) :
    List (Watched × (Text → Run Lookup)) → Run (List DependencyOutcome)
  | [] => return []
  | (dependency, lookup) :: rest => do
    let outcome ← checkOne resolved lookup advisory dependency
    let outcomes ← checkEach resolved advisory rest
    return outcome :: outcomes

theorem check_eq_checkEach (resolved : Resolved) (lookup : Text → Run Lookup) (advisory : Bool)
    (watched : List Watched) : check resolved lookup advisory watched =
      checkEach resolved advisory (watched.map fun dependency => (dependency, lookup)) := by
  induction watched with
  | nil => rfl
  | cons dependency rest ih => rw [check, ih, List.map_cons, checkEach]

/-- A watch list is checked to its end, with one outcome for each entry in its order. -/
theorem checkEach_result {resolved : Resolved} {entries : List (Watched × (Text → Run Lookup))}
    (hpresent : ∀ entry ∈ entries, ∀ version ∈ resolved.versions entry.1.name,
      ∃ t, version = .str t ∧ Version.IsDecided t)
    (hanswer : ∀ entry ∈ entries, ∃ answer, (entry.2 entry.1.name).result = .ok answer ∧
      (HasVersion (fun t => .str t ∈ resolved.versions entry.1.name) → answer.IsDecided))
    (advisory : Bool) :
    ∃ outcomes, (checkEach resolved advisory entries).result = .ok outcomes ∧
      List.Forall₂ (fun entry outcome => ∃ answer, (entry.2 entry.1.name).result = .ok answer ∧
        outcome.Accounts (fun t => .str t ∈ resolved.versions entry.1.name) entry.1 answer) entries outcomes := by
  induction entries with
  | nil => exact ⟨[], rfl, .nil⟩
  | cons entry rest ih =>
    obtain ⟨hpresentHere, hpresentLater⟩ := List.forall_mem_cons.mp hpresent
    obtain ⟨⟨answer, hgiven, hdecided⟩, hanswerLater⟩ := List.forall_mem_cons.mp hanswer
    obtain ⟨outcome, hone, haccounts⟩ := checkOne_result hpresentHere hgiven hdecided advisory
    obtain ⟨outcomes, hrest, hall⟩ := ih hpresentLater hanswerLater
    exact ⟨outcome :: outcomes, by simp [checkEach, hone, hrest], .cons ⟨answer, hgiven, haccounts⟩ hall⟩

/-- A watched package whose versions are texts with short numerals, with an answer that is plain. -/
def IsPlainEntry (resolved : Resolved) (entry : Watched × (Text → Run Lookup)) : Prop :=
  (∀ version ∈ resolved.versions entry.1.name, ∃ t, version = .str t ∧ Version.HasShortRuns t) ∧
    ∃ answer, (entry.2 entry.1.name).result = .ok answer ∧ answer.IsPlain

theorem checkEach_of_plain {resolved : Resolved} {entries : List (Watched × (Text → Run Lookup))}
    (hplain : ∀ entry ∈ entries, IsPlainEntry resolved entry) (advisory : Bool) :
    ∃ outcomes, (checkEach resolved advisory entries).result = .ok outcomes ∧
      List.Forall₂ (fun entry outcome => ∃ answer, (entry.2 entry.1.name).result = .ok answer ∧
        outcome.Accounts (fun t => .str t ∈ resolved.versions entry.1.name) entry.1 answer) entries outcomes := by
  apply checkEach_result
  · intro entry hmem
    exact decided_of_short (hplain entry hmem).1
  · intro entry hmem
    obtain ⟨answer, hgiven, hanswer⟩ := (hplain entry hmem).2
    exact ⟨answer, hgiven, fun _ => hanswer.isDecided⟩

/-- A watch list is checked to its end, and nothing counts against the run if and only if every
watched package is fresh. -/
theorem check_result {resolved : Resolved} {lookup : Text → Run Lookup} {answer : Text → Lookup}
    (watched : List Watched)
    (hpresent : ∀ name, ∀ version ∈ resolved.versions name, ∃ t, version = .str t ∧ Version.HasShortRuns t)
    (hanswer : ∀ name, (lookup name).result = .ok (answer name)) (hplain : ∀ name, (answer name).IsPlain)
    (advisory : Bool) :
    ∃ outcomes, (check resolved lookup advisory watched).result = .ok outcomes ∧
      (DependencyOutcome.violations outcomes = [] ↔ ∀ dependency ∈ watched,
        dependency.IsFresh (fun t => .str t ∈ resolved.versions dependency.name) (answer dependency.name)) := by
  have hentries : ∀ dependency ∈ watched, IsPlainEntry resolved (dependency, lookup) := fun dependency _ =>
    ⟨hpresent dependency.name, answer dependency.name, hanswer _, hplain _⟩
  obtain ⟨outcomes, hcheck, hall⟩ := checkEach_of_plain (List.forall_mem_map.mpr hentries) advisory
  rw [← check_eq_checkEach] at hcheck
  refine ⟨outcomes, hcheck, ?_⟩
  rw [DependencyOutcome.violations_eq_nil_iff]
  rw [List.forall₂_map_left_iff] at hall
  clear hcheck hentries
  induction hall with
  | nil => simp
  | cons hone _ ih =>
    obtain ⟨given, hgiven, haccounts⟩ := hone
    cases (hanswer _).symm.trans hgiven
    rw [List.forall_mem_cons, List.forall_mem_cons, haccounts.fresh_iff, ih]

end Freshness

end CrateGuard
