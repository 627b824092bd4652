import CrateGuard.Proofs.Freshness.Classification

/-! Freshness as versions come in. With more resolved versions the current version of a package does
not fall, and a package that is up to date stays so. With a higher answer of the registry an
outdated package stays outdated in the same way. All this is told of two checks of which at least
one has an outcome, and it holds for rows of digits of any length: an outcome that compares a
package has read every version of it. -/

namespace CrateGuard

namespace Version

/-- Versions that a package can have for current are one. -/
theorem IsCurrent.unique {present : Text → Prop} {t u : Text} (h : IsCurrent present t)
    (hother : IsCurrent present u) :
    t = u := by
  obtain ⟨order, horder, hge⟩ := h.not_lower u hother.mem hother.isRead
  obtain ⟨back, hback, hbackge⟩ := hother.not_lower t h.mem h.isRead
  cases (orderTexts_swap horder).symm.trans hback
  have hequal : order = .eq := by
    cases order with
    | lt => cases hge
    | eq => rfl
    | gt => cases hbackge
  subst hequal
  exact Text.isAtMost_antisymm (h.first u hother.mem horder) (hother.first t h.mem hback)

end Version

private theorem Freshness.isOutdated_iff {freshness : Freshness} :
    freshness.isOutdated = true ↔ freshness = .outdatedWarn ∨ freshness = .outdatedFail := by
  cases freshness <;> simp [isOutdated]

namespace DependencyOutcome

/-- An outcome that is no worse than another: its current version stands at least as high, and it is
up to date if the other is. -/
structure IsAhead (outcome other : DependencyOutcome) : Prop where
  current_isGE : ∃ t u order, other.current = some t ∧ outcome.current = some u ∧
    Version.orderTexts u t = .ok order ∧ order.isGE = true
  upToDate : other.freshness = .upToDate → outcome.freshness = .upToDate

section
variable {present others : Text → Prop} {dependency : Watched} {advisory : Bool} {s t : Text}
variable {outcome other : DependencyOutcome}

private theorem IsClassified.exists_compares
    (h : outcome.IsClassified present dependency advisory (.found (.str s)))
    (hversion : HasVersion present) (husable : ¬(Lookup.found (.str s)).IsUnusable) :
    ∃ t, Version.IsCurrent present t ∧ outcome.Compares advisory t s := by
  obtain ⟨t, ht, hcurrent⟩ := h.current_isCurrent hversion
  obtain ⟨current, latest, hlatest, hcompares⟩ := h.compared hversion husable
  cases hlatest
  cases ht.symm.trans hcompares.current_eq
  exact ⟨t, hcurrent, hcompares⟩

private theorem IsClassified.isAhead
    (h : outcome.IsClassified present dependency advisory (.found (.str s)))
    (hother : other.IsClassified others dependency advisory (.found (.str s))) (hversion : HasVersion present)
    (husable : ¬(Lookup.found (.str s)).IsUnusable) (hgrows : ∀ t, present t → others t) : other.IsAhead outcome := by
  have hversions := hversion.mono hgrows
  obtain ⟨t, hcurrent, hcompares⟩ := h.exists_compares hversion husable
  obtain ⟨u, hothercurrent, hothercompares⟩ := hother.exists_compares hversions husable
  obtain ⟨order, horder, hge⟩ := hothercurrent.not_lower t (hgrows t hcurrent.mem) hcurrent.isRead
  refine ⟨⟨t, u, order, hcompares.current_eq, hothercompares.current_eq, horder, hge⟩, ?_⟩
  intro hupToDate
  obtain ⟨below, hbelow, hbelow_iff, _⟩ := hcompares.freshness_iff
  obtain ⟨below', hbelow', hbelow'_iff, _⟩ := hothercompares.freshness_iff
  -- The latest release is at most the old current version, and so at most the new one.
  obtain ⟨through, hthrough, hle, _⟩ := Version.orderTexts_trans hbelow (Version.orderTexts_swap horder)
  cases hthrough.symm.trans hbelow'
  exact hbelow'_iff.mpr (hle (hbelow_iff.mp hupToDate) (Ordering.isLE_swap.trans hge))

/-- A release that is at least as high as one that outdates a package outdates it in the same
way. -/
private theorem IsClassified.stays_outdated
    (h : outcome.IsClassified present dependency advisory (.found (.str s)))
    (hother : other.IsClassified present dependency advisory (.found (.str t))) (hversion : HasVersion present)
    (husable : ¬(Lookup.found (.str s)).IsUnusable) (hotherusable : ¬(Lookup.found (.str t)).IsUnusable)
    {order : Ordering} (horder : Version.orderTexts t s = .ok order) (hge : order.isGE = true)
    (houtdated : outcome.isOutdated = true) :
    other.freshness = outcome.freshness ∧ other.current = outcome.current := by
  obtain ⟨current, hcurrent, hcompares⟩ := h.exists_compares hversion husable
  obtain ⟨same, hsame, hothercompares⟩ := hother.exists_compares hversion hotherusable
  cases hcurrent.unique hsame
  refine ⟨?_, hothercompares.current_eq.trans hcompares.current_eq.symm⟩
  obtain ⟨above, habove, _, hfail, hwarn⟩ := hcompares.freshness_iff
  obtain ⟨above', habove', _, hotherfail, hotherwarn⟩ := hothercompares.freshness_iff
  obtain ⟨through, hthrough, _, hgt⟩ := Version.orderTexts_trans horder habove
  cases hthrough.symm.trans habove'
  rw [h.dependency_eq] at hfail hwarn
  rw [hother.dependency_eq] at hotherfail hotherwarn
  rcases Freshness.isOutdated_iff.mp houtdated with hcase | hcase
  · obtain ⟨habove, hmode⟩ := hwarn.mp hcase
    rw [hcase, hotherwarn]
    exact ⟨hgt hge habove, hmode⟩
  · obtain ⟨habove, hmode⟩ := hfail.mp hcase
    rw [hcase, hotherfail]
    exact ⟨hgt hge habove, hmode⟩

end

end DependencyOutcome

namespace Freshness
variable {resolved smaller larger : Resolved} {lookup : Text → Run Lookup} {dependency : Watched} {advisory : Bool}
variable {outcome other : DependencyOutcome} {s : Text}

private theorem texts_of_sortedTexts {versions : List Json} {present : List Text}
    (h : sortedTexts versions = .ok present) :
    ∀ version ∈ versions, ∃ t, version = .str t := by
  unfold sortedTexts at h
  split at h
  · rename_i hlength
    intro version hmem
    have hsome := List.filterMap_length_eq_length.mp hlength version hmem
    cases version with
    | str t => exact ⟨t, rfl⟩
    | _ => cases hsome
  · cases h

/-- An outcome that was found with a version for the latest release has read all versions of the
package, so none of them is at fault. -/
private theorem isDecided_of_outcome
    (hone : (checkOne resolved lookup advisory dependency).result = .ok outcome)
    (hanswer : (lookup dependency.name).result = .ok (.found (.str s))) (hread : Version.isRead s = true) :
    ∀ version ∈ resolved.versions dependency.name, ∃ t, version = .str t ∧ Version.IsDecided t := by
  obtain ⟨present, hsorted, hone⟩ := Run.result_bind_eq_ok.mp hone
  have htexts := texts_of_sortedTexts hsorted
  obtain ⟨present', hsorted', _, hmem⟩ := sortedTexts_eq_ok htexts
  cases hsorted.symm.trans hsorted'
  suffices hall : ∀ t ∈ present, Version.IsDecided t by
    intro version hversion
    obtain ⟨t, rfl⟩ := htexts version hversion
    exact ⟨t, rfl, hall t ((hmem t).mpr hversion)⟩
  obtain ⟨best, hbest, hone⟩ := Run.result_bind_eq_ok.mp hone
  apply Version.isDecided_of_highest (mapError_eq_ok.mp hbest)
  rintro current rfl
  obtain ⟨_, _, hone⟩ := Run.result_bind_eq_ok.mp hone
  obtain ⟨answer, hgiven, hone⟩ := Run.result_bind_eq_ok.mp hone
  cases hgiven.symm.trans hanswer
  obtain ⟨v, hv⟩ := Version.isRead_iff.mp hread
  obtain ⟨read, hparsed, hone⟩ := Run.result_bind_eq_ok.mp hone
  cases (mapError_eq_ok.mp hparsed).symm.trans (Version.tryParse_of_ok hv)
  obtain ⟨order, horder, _⟩ := Run.result_bind_eq_ok.mp hone
  obtain ⟨_, w, _, hw, ⟨_, hshort⟩, _⟩ := Version.orderTexts_eq_ok_iff.mp (mapError_eq_ok.mp horder)
  exact .inl ⟨w, hw, hshort⟩

private theorem answer_isDecided_of_outcome
    (hone : (checkOne resolved lookup advisory dependency).result = .ok outcome)
    (hanswer : (lookup dependency.name).result = .ok (.found (.str s))) (hread : Version.isRead s = true)
    (hversion : HasVersion fun t => .str t ∈ resolved.versions dependency.name) :
    (Lookup.found (.str s)).IsDecided := by
  by_contra hfault
  have hdecided := isDecided_of_outcome hone hanswer hread
  cases (checkOne_of_not_isDecided hdecided hanswer hversion hfault advisory).symm.trans hone

private theorem isClassified_of_outcome
    (hone : (checkOne resolved lookup advisory dependency).result = .ok outcome)
    (hanswer : (lookup dependency.name).result = .ok (.found (.str s))) (hread : Version.isRead s = true) :
    outcome.IsClassified (fun t => .str t ∈ resolved.versions dependency.name) dependency advisory
      (.found (.str s)) := by
  obtain ⟨found, hfound, hclassified⟩ := checkOne_classified (isDecided_of_outcome hone hanswer hread) hanswer
    (answer_isDecided_of_outcome hone hanswer hread) advisory
  cases hfound.symm.trans hone
  exact hclassified

private theorem not_isUnusable_of_isRead (h : Version.isRead s = true) :
    ¬(Lookup.found (.str s)).IsUnusable := by
  rintro ⟨refusal, hrefused⟩
  obtain ⟨v, hv⟩ := Version.isRead_iff.mp h
  cases hv.symm.trans hrefused

/-- Where a check with more versions has an outcome, so has the check with fewer, and it is no
further ahead. -/
private theorem checkOne_isAhead (hanswer : (lookup dependency.name).result = .ok (.found (.str s)))
    (hread : Version.isRead s = true)
    (hgrows : ∀ version ∈ smaller.versions dependency.name, version ∈ larger.versions dependency.name)
    (hversion : HasVersion fun t => .str t ∈ smaller.versions dependency.name)
    (hother : (checkOne larger lookup advisory dependency).result = .ok other) :
    ∃ outcome, (checkOne smaller lookup advisory dependency).result = .ok outcome ∧ other.IsAhead outcome := by
  have hlarger := isClassified_of_outcome hother hanswer hread
  have hgiven := answer_isDecided_of_outcome hother hanswer hread (hversion.mono fun t => hgrows (.str t))
  have hdecided := isDecided_of_outcome hother hanswer hread
  obtain ⟨outcome, hone, hsmaller⟩ :=
    checkOne_classified (fun version h => hdecided version (hgrows version h)) hanswer (fun _ => hgiven) advisory
  exact ⟨outcome, hone,
    hsmaller.isAhead hlarger hversion (not_isUnusable_of_isRead hread) fun t => hgrows (.str t)⟩

/-- A package that is outdated under one release is so under every release that is at least as
high. -/
private theorem checkOne_stays_outdated
    (hanswer : (lookup dependency.name).result = .ok (.found (.str s)))
    (hread : Version.isRead s = true) (hone : (checkOne resolved lookup advisory dependency).result = .ok outcome)
    (houtdated : outcome.isOutdated = true) {later : Text → Run Lookup} {t : Text} {order : Ordering}
    (hlater : (later dependency.name).result = .ok (.found (.str t))) (horder : Version.orderTexts t s = .ok order)
    (hge : order.isGE = true) :
    ∃ other, (checkOne resolved later advisory dependency).result = .ok other ∧
      other.freshness = outcome.freshness ∧ other.current = outcome.current := by
  have hclassified := isClassified_of_outcome hone hanswer hread
  have hversion : HasVersion fun t => .str t ∈ resolved.versions dependency.name := by
    by_contra hnone
    rw [DependencyOutcome.isOutdated, hclassified.missing_iff.mpr hnone] at houtdated
    cases houtdated
  obtain ⟨v, _, hv, _, ⟨hshort, _⟩, _⟩ := Version.orderTexts_eq_ok_iff.mp horder
  have hgiven : (Lookup.found (.str t)).IsDecided := by
    rintro _ ⟨⟩
    exact .inl ⟨v, hv, hshort⟩
  obtain ⟨other, hother, hotherclassified⟩ :=
    checkOne_classified (isDecided_of_outcome hone hanswer hread) hlater (fun _ => hgiven) advisory
  have husable := not_isUnusable_of_isRead hread
  have hotherusable := not_isUnusable_of_isRead (Version.isRead_of_orderTexts horder).1
  exact ⟨other, hother,
    hclassified.stays_outdated hotherclassified hversion husable hotherusable horder hge houtdated⟩

/-- With a version for the latest release, more resolved versions put a package ahead of where it
was, and a higher release leaves an outdated package outdated in the same way. A check with more
versions has an outcome if no row of digits is too long, and where it has one so has the check with
fewer. -/
theorem freshness_monotone (hanswer : (lookup dependency.name).result = .ok (.found (.str s)))
    (hread : Version.isRead s = true) (advisory : Bool) :
    (∀ smaller larger : Resolved,
      (∀ version ∈ smaller.versions dependency.name, version ∈ larger.versions dependency.name) →
      HasVersion (fun t => .str t ∈ smaller.versions dependency.name) →
      (Version.HasShortRuns s →
        (∀ version ∈ larger.versions dependency.name, ∃ t, version = .str t ∧ Version.HasShortRuns t) →
        ∃ other, (checkOne larger lookup advisory dependency).result = .ok other) ∧
      ∀ other, (checkOne larger lookup advisory dependency).result = .ok other →
        ∃ outcome, (checkOne smaller lookup advisory dependency).result = .ok outcome ∧ other.IsAhead outcome) ∧
    ∀ (resolved : Resolved) (outcome : DependencyOutcome),
      (checkOne resolved lookup advisory dependency).result = .ok outcome → outcome.isOutdated = true →
      ∀ (later : Text → Run Lookup) (t : Text) (order : Ordering),
        (later dependency.name).result = .ok (.found (.str t)) →
        Version.orderTexts t s = .ok order → order.isGE = true →
          ∃ other, (checkOne resolved later advisory dependency).result = .ok other ∧
            other.freshness = outcome.freshness ∧ other.current = outcome.current := by
  refine ⟨?_, ?_⟩
  · intro smaller larger hgrows hversion
    refine ⟨?_, fun other hother => checkOne_isAhead hanswer hread hgrows hversion hother⟩
    intro hshort hversions
    have hgiven : (Lookup.found (.str s)).IsDecided := by
      rintro _ ⟨⟩
      exact hshort.isDecided
    obtain ⟨other, hother, _⟩ := checkOne_classified (decided_of_short hversions) hanswer (fun _ => hgiven) advisory
    exact ⟨other, hother⟩
  · intro resolved outcome hone houtdated later t order hlater horder hge
    exact checkOne_stays_outdated hanswer hread hone houtdated hlater horder hge

def released : Resolved := [(.str "serde", [.str "1.0.0-rc.1", .str "latest", .str "1.0.0-rc.01", .str "1.0.0"])]

/-- The candidates are behind the release, and as far behind the next one; with the release the
package is up to date. -/
theorem freshness_monotone_released :
    let serde : Watched := ⟨"serde", "unknown", true⟩
    ∃ outcome other later, (checkOne candidates (fun _ => return .found (.str "1.0.0")) false serde).result =
        .ok outcome ∧
      (checkOne released (fun _ => return .found (.str "1.0.0")) false serde).result = .ok other ∧
      other.IsAhead outcome ∧ outcome.freshness = .outdatedFail ∧ other.freshness = .upToDate ∧
      (checkOne candidates (fun _ => return .found (.str "1.0.1-x")) false serde).result = .ok later ∧
      later.freshness = outcome.freshness ∧ later.current = outcome.current := by
  intro serde
  have hcandidates : candidates.versions "serde" = [.str "1.0.0-rc.1", .str "latest", .str "1.0.0-rc.01"] := rfl
  have hreleased : released.versions "serde" =
      [.str "1.0.0-rc.1", .str "latest", .str "1.0.0-rc.01", .str "1.0.0"] := rfl
  have hgrows : ∀ version ∈ candidates.versions serde.name, version ∈ released.versions serde.name := by
    simp [serde, hcandidates, hreleased]
  have hversion : HasVersion fun t => .str t ∈ candidates.versions serde.name :=
    ⟨"1.0.0-rc.1", ⟨1, 0, 0, ["rc", "1"]⟩, List.mem_cons_self, rfl⟩
  have hother : (checkOne released (fun _ => return .found (.str "1.0.0")) false serde).result =
      .ok ⟨serde, .upToDate, some "1.0.0", some "1.0.0", none⟩ := by cbv
  obtain ⟨hgrowth, hhigher⟩ := @freshness_monotone (fun _ => return .found (.str "1.0.0")) serde "1.0.0" rfl
    (by decide) false
  obtain ⟨_, hahead⟩ := hgrowth candidates released hgrows hversion
  obtain ⟨outcome, hone, houtcome⟩ := hahead _ hother
  have hrun : (checkOne candidates (fun _ => return .found (.str "1.0.0")) false serde).result =
      .ok ⟨serde, .outdatedFail, some "1.0.0-rc.01", some "1.0.0", none⟩ := by cbv
  cases hrun.symm.trans hone
  obtain ⟨later, hlater, hsame⟩ := hhigher candidates _ hone rfl (fun _ => return .found (.str "1.0.1-x")) "1.0.1-x" .gt
    rfl rfl rfl
  exact ⟨_, _, later, hone, hother, houtcome, rfl, rfl, hlater, hsame⟩

end Freshness

end CrateGuard
