import Mathlib
import CrateGuard.Proofs.Freshness.Completion
import CrateGuard.Proofs.Freshness.Spelling

/-! What the outcome for one watched package has to be. It is missing if none of its versions can be
read. Otherwise its current version is the first text of those with the highest precedence, and the
answer of the registry decides: a failed lookup or a refused answer leaves it without a latest
release, and a version is compared with the current one. -/

namespace CrateGuard

namespace Version

/-- The text that stands for a package with the given versions: of those with the highest precedence
the first in the order of code points. -/
structure IsCurrent (present : Text → Prop) (t : Text) : Prop where
  mem : present t
  isRead : isRead t = true
  not_lower : ∀ s, present s → Version.isRead s = true → ∃ order, orderTexts t s = .ok order ∧ order.isGE = true
  first : ∀ s, present s → orderTexts t s = .ok .eq → t.isAtMost s = true

/-- In a row in the order of code points, the first of the highest versions is the current one. -/
private theorem IsHighest.isCurrent {present : List Text} {t : Text} {w : Version}
    (h : IsHighest present (some (t, w)))
    (hsorted : present.Pairwise fun s t => s.isAtMost t = true) (hdecided : ∀ s ∈ present, IsDecided s) :
    IsCurrent (· ∈ present) t := by
  have hfirst := h.isFirstHighest hdecided
  refine ⟨h.mem, hfirst.isRead, hfirst.not_lower, ?_⟩
  intro s hs heq
  obtain ⟨ht, before, after, rfl, hbefore, _⟩ := h
  obtain ⟨_, hrest, _⟩ := List.pairwise_append.mp hsorted
  rcases List.mem_append.mp hs with hs | hs
  · obtain ⟨v, x, hv, hx, _, hsame⟩ := orderTexts_eq_ok_iff.mp heq
    cases ht.symm.trans hv
    rw [Std.OrientedCmp.eq_comm, hbefore s hs x hx] at hsame
    cases hsame
  · rcases List.mem_cons.mp hs with rfl | hs
    · exact Text.isAtMost_refl s
    · exact (List.pairwise_cons.mp hrest).1 s hs

end Version

/-- A lookup that failed, or gave something that is refused as a version. -/
def Lookup.IsUnusable : Lookup → Prop
  | .found version => ∃ refusal, Version.ofJson version = .error (.refused refusal)
  | .refused _ => True
  | .broken _ => True

private theorem Lookup.IsDecided.isUnusable_iff {answer : Lookup} (h : answer.IsDecided) :
    answer.IsUnusable ↔ ¬answer.IsVersion := by
  cases answer with
  | refused reason => exact iff_of_true trivial (by rintro ⟨s, v, hs, _⟩; cases hs)
  | broken failure => exact iff_of_true trivial (by rintro ⟨s, v, hs, _⟩; cases hs)
  | found version =>
    cases version with
    | str s =>
      rcases h s rfl with ⟨v, hv, _⟩ | ⟨refusal, hrefused⟩
      · refine iff_of_false ?_ (not_not_intro ⟨s, v, rfl, hv⟩)
        rintro ⟨refusal, hrefused⟩
        cases hv.symm.trans hrefused
      · refine iff_of_true ⟨refusal, hrefused⟩ ?_
        rintro ⟨t, v, ht, hv⟩
        cases ht
        cases hv.symm.trans hrefused
    | _ => exact iff_of_true ⟨_, rfl⟩ (by rintro ⟨s, v, hs, _⟩; cases hs)

namespace DependencyOutcome

/-- An outcome that tells how a latest release stands to a current version. Both are versions, and a
higher release fails the run if updates fail it and the mode is strict. -/
structure Compares (advisory : Bool) (current latest : Text) (outcome : DependencyOutcome) : Prop where
  current_eq : outcome.current = some current
  latest_eq : outcome.latest = some latest
  current_read : Version.isRead current = true
  latest_read : Version.isRead latest = true
  freshness_iff : ∃ order, Version.orderTexts latest current = .ok order ∧
    (outcome.freshness = .upToDate ↔ order.isLE = true) ∧
    (outcome.freshness = .outdatedFail ↔
      order = .gt ∧ outcome.dependency.failOnUpdate = true ∧ advisory = false) ∧
    (outcome.freshness = .outdatedWarn ↔
      order = .gt ∧ ¬(outcome.dependency.failOnUpdate = true ∧ advisory = false))

/-- The one outcome that a watched package can have, given its versions and the answer of the
registry. -/
structure IsClassified (present : Text → Prop) (dependency : Watched) (advisory : Bool) (answer : Lookup)
    (outcome : DependencyOutcome) : Prop where
  dependency_eq : outcome.dependency = dependency
  missing_iff : outcome.freshness = .missing ↔ ¬HasVersion present
  missing_versions : outcome.freshness = .missing → outcome.current = none ∧ outcome.latest = none
  current_isCurrent : HasVersion present → ∃ t, outcome.current = some t ∧ Version.IsCurrent present t
  fetchError_iff : outcome.freshness = .fetchError ↔ HasVersion present ∧ answer.IsUnusable
  fetchError_parts : outcome.freshness = .fetchError → outcome.latest = none ∧ ∃ detail, outcome.detail = some detail
  compared : HasVersion present → ¬answer.IsUnusable →
    ∃ current latest, answer = .found (.str latest) ∧ outcome.Compares advisory current latest

end DependencyOutcome

namespace Freshness
variable {dependency : Watched} {advisory : Bool} {answer : Lookup}

private theorem compares_ofOrder {current latest : Text} {order : Ordering}
    (horder : Version.orderTexts latest current = .ok order) (dependency : Watched) (advisory : Bool)
    (detail : Option Text) : DependencyOutcome.Compares advisory current latest
      ⟨dependency, ofOrder dependency advisory order, some current, some latest, detail⟩ := by
  obtain ⟨hlatest, hcurrent⟩ := Version.isRead_of_orderTexts horder
  refine ⟨rfl, rfl, hcurrent, hlatest, order, horder, ?_⟩
  cases order with
  | lt => simp [ofOrder]
  | eq => simp [ofOrder]
  | gt => cases hfail : dependency.failOnUpdate <;> cases advisory <;> simp [ofOrder, hfail]

section
variable {present : List Text}

private theorem isClassified_missing (h : Version.IsHighest present none) (dependency : Watched)
    (advisory : Bool)
    (answer : Lookup) :
    (missingOutcome dependency present).IsClassified (· ∈ present) dependency advisory answer := by
  have hnone : ¬HasVersion (· ∈ present) := by
    rintro ⟨t, w, ht, hw⟩
    exact h t ht w hw
  exact {
    dependency_eq := rfl
    missing_iff := iff_of_true rfl hnone
    missing_versions := fun _ => ⟨rfl, rfl⟩
    current_isCurrent := fun hsome => absurd hsome hnone
    fetchError_iff := iff_of_false nofun fun hsome => hnone hsome.1
    fetchError_parts := nofun
    compared := fun hsome => absurd hsome hnone }

private theorem isClassified_unfetched {current : Text}
    (h : Version.IsCurrent (· ∈ present) current)
    (hsome : HasVersion (· ∈ present)) (dependency : Watched) (advisory : Bool) (detail : Text)
    (hanswer : answer.IsUnusable) :
    (unfetched dependency current detail).IsClassified (· ∈ present) dependency advisory answer where
  dependency_eq := rfl
  missing_iff := iff_of_false nofun (not_not_intro hsome)
  missing_versions := nofun
  current_isCurrent _ := ⟨current, rfl, h⟩
  fetchError_iff := iff_of_true rfl ⟨hsome, hanswer⟩
  fetchError_parts _ := ⟨rfl, detail, rfl⟩
  compared _ husable := absurd hanswer husable

private theorem isClassified_compared {current latest : Text}
    (h : Version.IsCurrent (· ∈ present) current)
    (hsome : HasVersion (· ∈ present)) (dependency : Watched) (advisory : Bool) {order : Ordering}
    (horder : Version.orderTexts latest current = .ok order) (husable : ¬(Lookup.found (.str latest)).IsUnusable) :
    DependencyOutcome.IsClassified (· ∈ present) dependency advisory (.found (.str latest))
      ⟨dependency, ofOrder dependency advisory order, some current, some latest, none⟩ := by
  obtain ⟨hmissing, hfetch⟩ := ofOrder_known dependency advisory order
  exact {
    dependency_eq := rfl
    missing_iff := iff_of_false hmissing (not_not_intro hsome)
    missing_versions := fun he => absurd he hmissing
    current_isCurrent := fun _ => ⟨current, rfl, h⟩
    fetchError_iff := iff_of_false hfetch fun he => husable he.2
    fetchError_parts := fun he => absurd he hfetch
    compared := fun _ _ => ⟨current, latest, rfl, compares_ofOrder horder dependency advisory none⟩ }

end

section
variable {resolved : Resolved} {lookup : Text → Run Lookup}

/-- A watched package has the outcome that it has to have, unless it can be compared and the answer
is at fault. -/
theorem checkOne_classified
    (hpresent : ∀ version ∈ resolved.versions dependency.name, ∃ t, version = .str t ∧ Version.IsDecided t)
    (hanswer : (lookup dependency.name).result = .ok answer)
    (hdecided : HasVersion (fun t => .str t ∈ resolved.versions dependency.name) → answer.IsDecided)
    (advisory : Bool) :
    ∃ outcome, (checkOne resolved lookup advisory dependency).result = .ok outcome ∧
      outcome.IsClassified (fun t => .str t ∈ resolved.versions dependency.name) dependency advisory answer := by
  obtain ⟨present, hmem, hsorted, hcases⟩ := checkOne_eq hpresent lookup advisory
  have hsame : (fun t => .str t ∈ resolved.versions dependency.name) = (· ∈ present) :=
    funext fun t => propext (hmem t).symm
  rw [hsame] at hdecided ⊢
  rcases hcases with ⟨hnone, hone⟩ | ⟨current, w, hhighest, hshort, hone⟩
  · exact ⟨_, by rw [hone, Run.result_pure], isClassified_missing hnone dependency advisory answer⟩
  · have hsome : HasVersion (· ∈ present) := ⟨current, w, hhighest.mem, hhighest.1⟩
    have hcurrent := hhighest.isCurrent hsorted (isDecided_of_mem hpresent hmem)
    have hgiven := hdecided hsome
    have hresult : (checkOne resolved lookup advisory dependency).result =
        (judge dependency advisory current answer).result := by simp [hone, hanswer]
    rw [hresult]
    rcases judge_cases hhighest.1 hshort dependency hgiven advisory with
      ⟨hno, detail, hjudge⟩ | ⟨s, v, rfl, hv, hjudge⟩
    · exact ⟨_, hjudge,
        isClassified_unfetched hcurrent hsome dependency advisory detail (hgiven.isUnusable_iff.mpr hno)⟩
    · have horder := Version.orderTexts_of_parse hv hhighest.1 ((hgiven s rfl).hasShortNumerals hv) hshort
      have husable := mt hgiven.isUnusable_iff.mp (not_not_intro ⟨s, v, rfl, hv⟩)
      exact ⟨_, hjudge, isClassified_compared hcurrent hsome dependency advisory horder husable⟩

/-- With versions that are texts without long rows of digits, a watched package has the outcome that
its versions and the answer of the registry call for. Only where it can be compared and the answer
is at fault for a numeral, which no answer without long rows of digits is, does the check end
without an outcome. -/
theorem outcome_follows_versions
    (hpresent : ∀ version ∈ resolved.versions dependency.name, ∃ t, version = .str t ∧ Version.HasShortRuns t)
    (hanswer : (lookup dependency.name).result = .ok answer) (advisory : Bool) :
    ((HasVersion (fun t => .str t ∈ resolved.versions dependency.name) → answer.IsDecided) →
      ∃ outcome, (checkOne resolved lookup advisory dependency).result = .ok outcome ∧
        outcome.IsClassified (fun t => .str t ∈ resolved.versions dependency.name) dependency advisory answer) ∧
    (HasVersion (fun t => .str t ∈ resolved.versions dependency.name) → ¬answer.IsDecided →
      (checkOne resolved lookup advisory dependency).result = .error .unreadableNumeral) ∧
    (answer.HasShortRuns → answer.IsDecided) := by
  have hdecided := decided_of_short hpresent
  refine ⟨?_, ?_, Lookup.HasShortRuns.isDecided⟩
  · intro hgiven
    exact checkOne_classified hdecided hanswer hgiven advisory
  · intro hversion hfault
    exact checkOne_of_not_isDecided hdecided hanswer hversion hfault advisory

end

def candidates : Resolved := [(.str "serde", [.str "1.0.0-rc.1", .str "latest", .str "1.0.0-rc.01"])]

private theorem candidates_short :
    ∀ version ∈ candidates.versions "serde", ∃ t, version = .str t ∧ Version.HasShortRuns t := by
  have hshort {t : Text} (h : t.length ≤ Text.digitLimit) : ∃ u, Json.str t = .str u ∧ Version.HasShortRuns u :=
    ⟨t, rfl, Version.hasShortRuns_of_length h⟩
  have hversions : candidates.versions "serde" = [.str "1.0.0-rc.1", .str "latest", .str "1.0.0-rc.01"] := rfl
  simp only [hversions, List.forall_mem_cons]
  exact ⟨hshort (by decide), hshort (by decide), hshort (by decide), by simp⟩

/-- The release stands above both spellings, the padded one of which is the current version. -/
theorem outcome_follows_versions_released :
    ∃ outcome, (checkOne candidates (fun _ => return .found (.str "1.0.0")) false ⟨"serde", "unknown", true⟩).result =
        .ok outcome ∧
      outcome.IsClassified (fun t => .str t ∈ candidates.versions "serde") ⟨"serde", "unknown", true⟩ false
        (.found (.str "1.0.0")) ∧
      outcome.freshness = .outdatedFail ∧ outcome.current = some "1.0.0-rc.01" ∧ outcome.latest = some "1.0.0" := by
  have hshort : (Lookup.found (.str "1.0.0")).HasShortRuns := by
    rintro _ ⟨⟩
    exact Version.hasShortRuns_of_length (by decide)
  have hrun : (checkOne candidates (fun _ => return .found (.str "1.0.0")) false ⟨"serde", "unknown", true⟩).result =
      .ok ⟨⟨"serde", "unknown", true⟩, .outdatedFail, some "1.0.0-rc.01", some "1.0.0", none⟩ := by cbv
  obtain ⟨hclassified, _, hdecided⟩ := @outcome_follows_versions ⟨"serde", "unknown", true⟩ (.found (.str "1.0.0"))
    candidates (fun _ => return .found (.str "1.0.0")) candidates_short rfl false
  obtain ⟨outcome, hone, houtcome⟩ := hclassified fun _ => hdecided hshort
  cases hrun.symm.trans hone
  exact ⟨_, hrun, houtcome, rfl, rfl, rfl⟩

/-- An answer with a number that is too long leaves the package without an outcome. -/
theorem no_outcome_for_longRelease :
    (∀ version ∈ candidates.versions "serde", ∃ t, version = .str t ∧ Version.HasShortRuns t) ∧
      ∀ outcome, (checkOne candidates (fun _ => return .found (.str longRelease)) false
        ⟨"serde", "unknown", true⟩).result ≠ .ok outcome := by
  refine ⟨candidates_short, fun outcome hone => ?_⟩
  have hversion : HasVersion fun t => .str t ∈ candidates.versions "serde" :=
    ⟨"1.0.0-rc.1", ⟨1, 0, 0, ["rc", "1"]⟩, List.mem_cons_self, rfl⟩
  have hfault : ¬(Lookup.found (.str longRelease)).IsDecided := fun h => longRelease_not_isDecided (h _ rfl)
  have hcrash := @checkOne_of_not_isDecided candidates (fun _ => return .found (.str longRelease))
    ⟨"serde", "unknown", true⟩ _ (decided_of_short candidates_short) rfl hversion hfault false
  cases hcrash.symm.trans hone

end Freshness

end CrateGuard
