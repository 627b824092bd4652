import Mathlib
import CrateGuard.Proofs.Freshness.NamedVersions
import CrateGuard.Report.Table

/-! The table after a check. It has one row for each outcome, in order, and a row can be taken at
its word: no version is written like one of the words that stand for an absent version, so each cell
tells its case, and where both cells are versions, the outcome beside them is how they stand to one
another. -/

namespace CrateGuard

private theorem Freshness.isOutdated_ofOrder (dependency : Watched) (advisory : Bool)
    (order : Ordering) :
    (ofOrder dependency advisory order).isOutdated = true ↔ order = .gt := by
  cases order with
  | lt => simp [ofOrder, isOutdated]
  | eq => simp [ofOrder, isOutdated]
  | gt =>
    simp only [ofOrder]
    split_ifs <;> simp [isOutdated]

private theorem Freshness.tag_outdated_iff (freshness : Freshness) :
    (Text.ofString freshness.tag = "outdated-warn" ∨ Text.ofString freshness.tag = "outdated-fail") ↔
      freshness.isOutdated = true := by
  cases freshness <;> decide

namespace TableRow

structure Tells (row : TableRow) (outcome : DependencyOutcome) : Prop where
  name_eq : row.name = outcome.dependency.name
  group_eq : row.group = outcome.dependency.group
  outcome_eq : row.outcome = outcome.freshness.tag
  notFound_iff : row.current = notFound ↔ outcome.freshness = .missing
  notApplicable_iff : row.latest = notApplicable ↔ outcome.freshness = .missing
  notFetched_iff : row.latest = notFetched ↔ outcome.freshness = .fetchError
  current_read : outcome.freshness ≠ .missing → Version.isRead row.current = true
  latest_read : outcome.freshness ≠ .missing → outcome.freshness ≠ .fetchError → Version.isRead row.latest = true
  outdated_iff : outcome.freshness ≠ .missing → outcome.freshness ≠ .fetchError →
    ∃ order, Version.orderTexts row.latest row.current = .ok order ∧
      (order = .gt ↔ row.outcome = "outdated-warn" ∨ row.outcome = "outdated-fail")

private theorem ne_of_isRead {s sentinel : Text} (h : Version.isRead s = true)
    (hsentinel : Version.isRead sentinel = false) :
    s ≠ sentinel := by
  rintro rfl
  cases h.symm.trans hsentinel

private theorem isRead_notFound : Version.isRead notFound = false := by decide

private theorem isRead_notApplicable : Version.isRead notApplicable = false := by decide

private theorem isRead_notFetched : Version.isRead notFetched = false := by decide

private theorem versionOr_of_isRead {s : Text} (h : Version.isRead s = true) (sentinel : Text) :
    versionOr sentinel (some s) = s := by
  cases s with
  | nil => cases h
  | cons c rest => rfl

private theorem versionCells_of_known {outcome : DependencyOutcome}
    (hmissing : outcome.freshness ≠ .missing)
    (hfetch : outcome.freshness ≠ .fetchError) :
    versionCells outcome = (versionOr notFound outcome.current, versionOr notApplicable outcome.latest) := by
  unfold versionCells
  split
  · contradiction
  · contradiction
  · rfl

/-- The row for an outcome of a check tells the truth. -/
private theorem tells_ofOutcome {dependency : Watched} {advisory : Bool}
    {outcome : DependencyOutcome}
    (h : Freshness.IsOutcome dependency advisory outcome) : (ofOutcome outcome).Tells outcome := by
  cases h with
  | missing present =>
    have hrow : ofOutcome (Freshness.missingOutcome dependency present) =
        ⟨dependency.name, dependency.group, notFound, notApplicable, Freshness.missing.tag⟩ := rfl
    rw [hrow]
    exact {
      name_eq := rfl
      group_eq := rfl
      outcome_eq := rfl
      notFound_iff := iff_of_true rfl rfl
      notApplicable_iff := iff_of_true rfl rfl
      notFetched_iff := iff_of_false (by decide : notApplicable ≠ notFetched) (by nofun)
      current_read := absurd rfl
      latest_read := absurd rfl
      outdated_iff := absurd rfl }
  | @unfetched current hcurrent detail =>
    have hread := Version.isRead_iff.mpr hcurrent
    have hrow : ofOutcome (Freshness.unfetched dependency current detail) =
        ⟨dependency.name, dependency.group, current, notFetched, Freshness.fetchError.tag⟩ :=
      congrArg (TableRow.mk dependency.name dependency.group · notFetched Freshness.fetchError.tag)
        (versionOr_of_isRead hread notFound)
    rw [hrow]
    exact {
      name_eq := rfl
      group_eq := rfl
      outcome_eq := rfl
      notFound_iff := iff_of_false (ne_of_isRead hread isRead_notFound) (by nofun)
      notApplicable_iff := iff_of_false (by decide : notFetched ≠ notApplicable) (by nofun)
      notFetched_iff := iff_of_true rfl rfl
      current_read := fun _ => hread
      latest_read := fun _ hfetch => absurd rfl hfetch
      outdated_iff := fun _ hfetch => absurd rfl hfetch }
  | @compared current latest order horder =>
    obtain ⟨hlatest, hcurrent⟩ := Version.isRead_of_orderTexts horder
    obtain ⟨hmissing, hfetch⟩ := Freshness.ofOrder_known dependency advisory order
    have hrow : ofOutcome ⟨dependency, Freshness.ofOrder dependency advisory order, some current, some latest, none⟩ =
        ⟨dependency.name, dependency.group, current, latest, (Freshness.ofOrder dependency advisory order).tag⟩ := by
      rw [ofOutcome, versionCells_of_known hmissing hfetch, versionOr_of_isRead hcurrent,
        versionOr_of_isRead hlatest]
    rw [hrow]
    exact {
      name_eq := rfl
      group_eq := rfl
      outcome_eq := rfl
      notFound_iff := iff_of_false (ne_of_isRead hcurrent isRead_notFound) hmissing
      notApplicable_iff := iff_of_false (ne_of_isRead hlatest isRead_notApplicable) hmissing
      notFetched_iff := iff_of_false (ne_of_isRead hlatest isRead_notFetched) hfetch
      current_read := fun _ => hcurrent
      latest_read := fun _ _ => hlatest
      outdated_iff := fun _ _ =>
        ⟨order, horder, (Freshness.isOutdated_ofOrder dependency advisory order).symm.trans
          (Freshness.tag_outdated_iff _).symm⟩ }

/-- The table after a check has one row for each watched package, in the order of the watch list,
and each row tells the truth about its package. That holds for every outcome that a check can give,
with rows of digits of any length. -/
theorem table_of_check {resolved : Resolved} {lookup : Text → Run Lookup} {advisory : Bool}
    {watched : List Watched}
    {outcomes : List DependencyOutcome}
    (hcheck : (Freshness.check resolved lookup advisory watched).result = .ok outcomes) :
    outcomes.map (·.dependency) = watched ∧ List.Forall₂ Tells (table outcomes) outcomes := by
  refine ⟨(Freshness.check_isRead hcheck).1, ?_⟩
  have hall := Freshness.check_isOutcome hcheck
  clear hcheck
  induction hall with
  | nil => exact .nil
  | cons hone _ ih => exact .cons (tells_ofOutcome hone) ih

def threeWatched : List Watched := [⟨"rand", "util", false⟩, ⟨"serde", "core", true⟩, ⟨"tokio", "core", true⟩]

def twoResolved : Resolved := [(.str "serde", [.str "1.0.9"]), (.str "tokio", [.str "1.2.0"])]

def knowingSerde (name : Text) : Run Lookup :=
  if name = "serde" then return .found (.str "1.0.10") else return .refused "timed out"

def threeOutcomes : List DependencyOutcome :=
  [⟨⟨"rand", "util", false⟩, .missing, none, none, none⟩,
    ⟨⟨"serde", "core", true⟩, .outdatedFail, some "1.0.9", some "1.0.10", none⟩,
    ⟨⟨"tokio", "core", true⟩, .fetchError, some "1.2.0", none, some "timed out"⟩]

/-- One package is missing, one is outdated and one was not fetched, and the table says so. -/
theorem table_of_check_three :
    (Freshness.check twoResolved knowingSerde false threeWatched).result = .ok threeOutcomes ∧
      table threeOutcomes = [⟨"rand", "util", "not-found", "n/a", "missing"⟩,
        ⟨"serde", "core", "1.0.9", "1.0.10", "outdated-fail"⟩,
        ⟨"tokio", "core", "1.2.0", "fetch-error", "fetch-error"⟩] ∧
      List.Forall₂ Tells (table threeOutcomes) threeOutcomes := by
  have hcheck : (Freshness.check twoResolved knowingSerde false threeWatched).result = .ok threeOutcomes := by cbv
  exact ⟨hcheck, rfl, (table_of_check hcheck).2⟩

end TableRow

end CrateGuard
