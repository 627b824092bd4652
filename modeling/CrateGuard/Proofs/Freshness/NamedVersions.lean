import CrateGuard.Proofs.Freshness.Check

/-! The outcomes that a check can give, whatever it is given. There are three kinds, and each
version that they name is one that can be read. A package that is missing or was not fetched has no
version where there is none to show, and one that was compared stands to its latest release as its
case says. -/

namespace CrateGuard

/-- An outcome that names versions only where it should: each can be read, and there is no current
version of a missing package and no latest one of a package that was not compared. -/
structure DependencyOutcome.IsRead (outcome : DependencyOutcome) : Prop where
  current_read : ∀ t, outcome.current = some t → ∃ v, Version.parse t = .ok v
  latest_read : ∀ t, outcome.latest = some t → ∃ v, Version.parse t = .ok v
  current_none : outcome.freshness = .missing → outcome.current = none
  latest_none : outcome.freshness.isUnknown = true → outcome.latest = none

namespace Freshness
variable {resolved : Resolved} {lookup : Text → Run Lookup} {advisory : Bool} {dependency : Watched}
variable {outcome : DependencyOutcome}

/-- The outcomes that a check can give for a watched package. Two texts that have an order are both
versions. -/
inductive IsOutcome (dependency : Watched) (advisory : Bool) : DependencyOutcome → Prop
  | missing (present : List Text) : IsOutcome dependency advisory (missingOutcome dependency present)
  | unfetched {current : Text} (hcurrent : ∃ w, Version.parse current = .ok w) (detail : Text) :
    IsOutcome dependency advisory (unfetched dependency current detail)
  | compared {current latest : Text} {order : Ordering} (horder : Version.orderTexts latest current = .ok order) :
    IsOutcome dependency advisory ⟨dependency, ofOrder dependency advisory order, some current, some latest, none⟩

private theorem isUnknown_iff {freshness : Freshness} :
    freshness.isUnknown = true ↔ freshness = .missing ∨ freshness = .fetchError := by
  cases freshness <;> simp [isUnknown]

private theorem judge_isOutcome {current : Text} (hcurrent : ∃ w, Version.parse current = .ok w)
    {answer : Lookup}
    (h : (judge dependency advisory current answer).result = .ok outcome) : IsOutcome dependency advisory outcome := by
  cases answer with
  | refused reason =>
    cases h
    exact .unfetched hcurrent _
  | broken failure =>
    cases h
    exact .unfetched hcurrent _
  | found version =>
    obtain ⟨read, _, h⟩ := Run.result_bind_eq_ok.mp h
    cases read with
    | none =>
      cases h
      exact .unfetched hcurrent _
    | some parsed =>
      obtain ⟨order, horder, h⟩ := Run.result_bind_eq_ok.mp h
      cases h
      exact .compared (mapError_eq_ok.mp horder)

private theorem checkOne_isOutcome
    (h : (checkOne resolved lookup advisory dependency).result = .ok outcome) :
    IsOutcome dependency advisory outcome := by
  obtain ⟨present, _, h⟩ := Run.result_bind_eq_ok.mp h
  obtain ⟨best, hbest, h⟩ := Run.result_bind_eq_ok.mp h
  cases best with
  | none =>
    cases h
    exact .missing present
  | some current =>
    obtain ⟨_, _, h⟩ := Run.result_bind_eq_ok.mp h
    obtain ⟨answer, _, h⟩ := Run.result_bind_eq_ok.mp h
    exact judge_isOutcome (Version.parse_of_highest (mapError_eq_ok.mp hbest)) h

theorem check_isOutcome {watched : List Watched} {outcomes : List DependencyOutcome}
    (h : (check resolved lookup advisory watched).result = .ok outcomes) :
    List.Forall₂ (fun dependency outcome => IsOutcome dependency advisory outcome) watched outcomes := by
  induction watched generalizing outcomes with
  | nil =>
    cases h
    exact .nil
  | cons dependency rest ih =>
    obtain ⟨outcome, hone, h⟩ := Run.result_bind_eq_ok.mp h
    obtain ⟨later, hlater, h⟩ := Run.result_bind_eq_ok.mp h
    cases h
    exact .cons (checkOne_isOutcome hone) (ih hlater)

theorem IsOutcome.isRead (h : IsOutcome dependency advisory outcome) :
    outcome.dependency = dependency ∧ outcome.IsRead := by
  cases h with
  | missing present => exact ⟨rfl, by nofun, by nofun, fun _ => rfl, fun _ => rfl⟩
  | unfetched hcurrent detail =>
    refine ⟨rfl, ?_, by nofun, by nofun, fun _ => rfl⟩
    rintro _ ⟨⟩
    exact hcurrent
  | @compared current latest order horder =>
    obtain ⟨v, w, hv, hw, _⟩ := Version.orderTexts_eq_ok_iff.mp horder
    obtain ⟨hmissing, hfetch⟩ := ofOrder_known dependency advisory order
    refine ⟨rfl, ?_, ?_, fun h => absurd h hmissing, fun h => ?_⟩
    · rintro _ ⟨⟩
      exact ⟨w, hw⟩
    · rintro _ ⟨⟩
      exact ⟨v, hv⟩
    · exact (isUnknown_iff.mp h).elim (absurd · hmissing) (absurd · hfetch)

/-- The outcomes of a check are those of its watch list in order, and each names versions only where
it should. -/
theorem check_isRead {watched : List Watched} {outcomes : List DependencyOutcome}
    (h : (check resolved lookup advisory watched).result = .ok outcomes) :
    outcomes.map (·.dependency) = watched ∧ ∀ outcome ∈ outcomes, outcome.IsRead := by
  have hall := check_isOutcome h
  clear h
  induction hall with
  | nil => exact ⟨rfl, by nofun⟩
  | cons hone _ ih =>
    obtain ⟨hdependency, hread⟩ := hone.isRead
    exact ⟨by rw [List.map_cons, hdependency, ih.1], List.forall_mem_cons.mpr ⟨hread, ih.2⟩⟩

end Freshness

end CrateGuard
