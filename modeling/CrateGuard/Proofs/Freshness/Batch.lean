import CrateGuard.Proofs.Freshness.Completion
import CrateGuard.Proofs.Freshness.Spelling
import CrateGuard.Proofs.Graph.Resolution

/-! A watch list as a batch. Each entry has the outcome that it has when it is checked alone, and
the registry is asked for the entries that can be compared, in their order. What becomes of one
entry makes no difference to another, with one exception: where the answer for an entry is at fault
for a numeral the check ends there, and the entries after it are not looked at. -/

namespace CrateGuard

def Version.canRead (value : Json) : Bool :=
  match tryOfJson value with
  | .ok (some _) => true
  | _ => false

private theorem Version.canRead_iff {value : Json} : canRead value = true ↔ ∃ t v, value = .str t ∧
    parse t = .ok v := by
  constructor
  · intro h
    by_cases htext : ∃ t, value = .str t
    · obtain ⟨t, rfl⟩ := htext
      cases hread : tryOfJson (.str t) with
      | error fault => simp [canRead, hread] at h
      | ok read =>
        cases read with
        | none => simp [canRead, hread] at h
        | some v => exact ⟨t, v, rfl, parse_of_tryParse hread⟩
    · rw [canRead, tryOfJson_of_not_text fun t ht => htext ⟨t, ht⟩] at h
      cases h
  · rintro ⟨t, v, rfl, hv⟩
    have hread : tryOfJson (.str t) = .ok (some v) := tryParse_of_ok hv
    rw [canRead, hread]

def Watched.isComparable (resolved : Resolved) (dependency : Watched) : Bool :=
  (resolved.versions dependency.name).any Version.canRead

private theorem Watched.isComparable_iff {resolved : Resolved} {dependency : Watched} :
    dependency.isComparable resolved = true ↔ HasVersion fun t => .str t ∈ resolved.versions dependency.name := by
  rw [isComparable, List.any_eq_true]
  constructor
  · rintro ⟨version, hmem, hread⟩
    obtain ⟨t, v, rfl, hv⟩ := Version.canRead_iff.mp hread
    exact ⟨t, v, hmem, hv⟩
  · rintro ⟨t, v, hmem, hv⟩
    exact ⟨.str t, hmem, Version.canRead_iff.mpr ⟨t, v, rfl, hv⟩⟩

namespace Freshness

def comparableNames (resolved : Resolved) (watched : List Watched) : List Text :=
  (watched.filter (·.isComparable resolved)).map (·.name)

private theorem comparableNames_append (resolved : Resolved) (before after : List Watched) :
    comparableNames resolved (before ++ after) = comparableNames resolved before ++ comparableNames resolved after := by
  rw [comparableNames, List.filter_append, List.map_append]
  rfl

/-- A registry that has an answer for each name, and asks for no other name to give it. -/
structure AnswersAs (lookup : Text → Run Lookup) (answer : Text → Lookup) : Prop where
  result_eq : ∀ name, (lookup name).result = .ok (answer name)
  lookups_eq : ∀ name, (lookup name).trace.lookups = []

/-- A watched package that gets an outcome: if it can be compared then the answer for it is not at
fault. -/
def Settles (resolved : Resolved) (answer : Text → Lookup) (dependency : Watched) : Prop :=
  HasVersion (fun t => .str t ∈ resolved.versions dependency.name) → (answer dependency.name).IsDecided

/-- The outcome that a watched package has when it is checked alone. All that it depends on are the
entry, the versions of the package in any order, and the answer for it. -/
structure IsOwnOutcome (resolved : Resolved) (answer : Text → Lookup) (advisory : Bool) (dependency : Watched)
    (outcome : DependencyOutcome) : Prop where
  dependency_eq : outcome.dependency = dependency
  alone : ∀ (other : Resolved) (lookup : Text → Run Lookup),
    (resolved.versions dependency.name).Perm (other.versions dependency.name) →
      (lookup dependency.name).result = .ok (answer dependency.name) →
        (checkOne other lookup advisory dependency).result = .ok outcome

section
variable {resolved other : Resolved} {lookup : Text → Run Lookup} {answer : Text → Lookup} {dependency : Watched}

private theorem checkOne_congr {given : Text → Run Lookup}
    (hversions : (resolved.versions dependency.name).Perm (other.versions dependency.name))
    (hanswer : (lookup dependency.name).result = (given dependency.name).result) (advisory : Bool) :
    (checkOne resolved lookup advisory dependency).result = (checkOne other given advisory dependency).result := by
  rw [checkOne, checkOne, sortedTexts_eq_of_perm hversions]
  apply Run.result_bind_congr
  intro present
  apply Run.result_bind_congr
  intro best
  cases best with
  | none => rfl
  | some current =>
    apply Run.result_bind_congr
    intro _
    rw [Run.result_bind, Run.result_bind, hanswer]

private theorem lookups_judge (dependency : Watched) (advisory : Bool) (current : Text)
    (answer : Lookup) :
    (judge dependency advisory current answer).trace.lookups = [] := by
  cases answer with
  | refused reason => rfl
  | broken failure => rfl
  | found version =>
    apply Run.lookups_bind_eq_nil rfl
    intro read
    cases read with
    | none => rfl
    | some parsed =>
      apply Run.lookups_bind_eq_nil rfl
      intro order
      rfl

private theorem lookups_checkOne
    (hpresent : ∀ version ∈ resolved.versions dependency.name, ∃ t, version = .str t ∧ Version.IsDecided t)
    (hanswers : AnswersAs lookup answer) (advisory : Bool) :
    (checkOne resolved lookup advisory dependency).trace.lookups = comparableNames resolved [dependency] := by
  obtain ⟨present, hmem, _, hcases⟩ := checkOne_eq hpresent lookup advisory
  rcases hcases with ⟨hnone, hone⟩ | ⟨current, w, hsome, _, hone⟩
  · have hnot : ¬dependency.isComparable resolved = true := by
      rw [Watched.isComparable_iff]
      rintro ⟨t, v, ht, hv⟩
      exact hnone t ((hmem t).mpr ht) v hv
    rw [hone, comparableNames, List.filter_cons_of_neg hnot]
    rfl
  · have hcomparable : dependency.isComparable resolved = true :=
      Watched.isComparable_iff.mpr ⟨current, w, (hmem current).mp hsome.mem, hsome.1⟩
    rw [hone, Run.bind_of_ok (Run.result_noteLookup _), Run.bind_of_ok (hanswers.result_eq _), Trace.lookups_append,
      Trace.lookups_append, hanswers.lookups_eq, lookups_judge, comparableNames, List.filter_cons_of_pos hcomparable]
    rfl

private theorem checkOne_settled
    (hpresent : ∀ version ∈ resolved.versions dependency.name, ∃ t, version = .str t ∧ Version.IsDecided t)
    (hanswers : AnswersAs lookup answer) (hsettles : Settles resolved answer dependency) (advisory : Bool) :
    ∃ outcome, (checkOne resolved lookup advisory dependency).result = .ok outcome ∧
      IsOwnOutcome resolved answer advisory dependency outcome := by
  obtain ⟨outcome, hone, haccounts⟩ := checkOne_result hpresent (hanswers.result_eq _) hsettles advisory
  refine ⟨outcome, hone, haccounts.dependency_eq, ?_⟩
  intro other given hversions hgiven
  rw [← hone]
  exact (checkOne_congr hversions ((hanswers.result_eq _).trans hgiven.symm) advisory).symm

private theorem checkOne_unsettled
    (hpresent : ∀ version ∈ resolved.versions dependency.name, ∃ t, version = .str t ∧ Version.IsDecided t)
    (hanswers : AnswersAs lookup answer) (hsettles : ¬Settles resolved answer dependency) (advisory : Bool) :
    dependency.isComparable resolved = true ∧
      (checkOne resolved lookup advisory dependency).result = .error .unreadableNumeral := by
  obtain ⟨hversion, hfault⟩ := Classical.not_imp.mp hsettles
  exact ⟨Watched.isComparable_iff.mpr hversion,
    checkOne_of_not_isDecided hpresent (hanswers.result_eq _) hversion hfault advisory⟩

private theorem check_append (resolved : Resolved) (lookup : Text → Run Lookup) (advisory : Bool)
    (before after : List Watched) :
    check resolved lookup advisory (before ++ after) = do
      let outcomes ← check resolved lookup advisory before
      let later ← check resolved lookup advisory after
      return outcomes ++ later := by
  induction before with
  | nil => simp [check]
  | cons dependency rest ih => simp [check, ih]

private theorem check_append_of_ok {advisory : Bool} {before after : List Watched}
    {outcomes later : List DependencyOutcome}
    (hbefore : (check resolved lookup advisory before).result = .ok outcomes)
    (hafter : (check resolved lookup advisory after).result = .ok later) :
    check resolved lookup advisory (before ++ after) =
      ⟨.ok (outcomes ++ later),
        (check resolved lookup advisory before).trace ++ (check resolved lookup advisory after).trace⟩ := by
  rw [check_append, Run.bind_of_ok hbefore, Run.bind_of_ok hafter]
  congr 2
  exact Trace.append_empty _

end

section
variable {resolved : Resolved} {lookup : Text → Run Lookup} {answer : Text → Lookup}

/-- Entries that all settle have their own outcomes, and are asked for in order. -/
private theorem check_settled
    (hpresent : ∀ name, ∀ version ∈ resolved.versions name, ∃ t, version = .str t ∧ Version.IsDecided t)
    (hanswers : AnswersAs lookup answer) (advisory : Bool) {watched : List Watched}
    (hsettle : ∀ dependency ∈ watched, Settles resolved answer dependency) :
    ∃ outcomes, (check resolved lookup advisory watched).result = .ok outcomes ∧
      List.Forall₂ (IsOwnOutcome resolved answer advisory) watched outcomes ∧
      (check resolved lookup advisory watched).trace.lookups = comparableNames resolved watched := by
  induction watched with
  | nil => exact ⟨[], rfl, .nil, rfl⟩
  | cons dependency rest ih =>
    obtain ⟨hhere, hlater⟩ := List.forall_mem_cons.mp hsettle
    obtain ⟨outcome, hone, hown⟩ := checkOne_settled (hpresent _) hanswers hhere advisory
    obtain ⟨outcomes, hrest, hall, hlookups⟩ := ih hlater
    refine ⟨outcome :: outcomes, by simp [check, hone, hrest], .cons hown hall, ?_⟩
    have hfirst := lookups_checkOne (hpresent dependency.name) hanswers advisory
    rw [check, Run.bind_of_ok hone, Run.bind_of_ok hrest, Trace.lookups_append, Trace.lookups_append, hfirst, hlookups,
      ← List.append_assoc, ← comparableNames_append, List.singleton_append]
    exact List.append_nil _

/-- The first entry that does not settle is asked for, and ends the check. -/
private theorem check_unsettled
    (hpresent : ∀ name, ∀ version ∈ resolved.versions name, ∃ t, version = .str t ∧ Version.IsDecided t)
    (hanswers : AnswersAs lookup answer) (advisory : Bool) {before : List Watched} {dependency : Watched}
    (hsettle : ∀ earlier ∈ before, Settles resolved answer earlier) (hunsettled : ¬Settles resolved answer dependency)
    (after : List Watched) :
    (check resolved lookup advisory (before ++ dependency :: after)).result = .error .unreadableNumeral ∧
      (check resolved lookup advisory (before ++ dependency :: after)).trace.lookups =
        comparableNames resolved before ++ [dependency.name] := by
  obtain ⟨outcomes, hbefore, _, hlookups⟩ := check_settled hpresent hanswers advisory hsettle
  obtain ⟨hcomparable, hone⟩ := checkOne_unsettled (hpresent _) hanswers hunsettled advisory
  have hrest : check resolved lookup advisory (dependency :: after) =
      ⟨.error .unreadableNumeral, (checkOne resolved lookup advisory dependency).trace⟩ := by
    rw [check, Run.bind_of_crash hone]
  have hasked : (checkOne resolved lookup advisory dependency).trace.lookups = [dependency.name] := by
    rw [lookups_checkOne (hpresent _) hanswers, comparableNames, List.filter_cons_of_pos hcomparable]
    rfl
  rw [check_append, Run.bind_of_ok hbefore, hrest]
  refine ⟨rfl, ?_⟩
  rw [Run.bind_of_crash rfl, Trace.lookups_append, hlookups, hasked]

end

/-- Each entry of a watch list has the outcome that it has alone, the entries that can be compared
are asked for in order, and there is one violation for each outcome that fails the run; so a list in
two parts has the outcomes, the questions and the violations of the parts. Only an answer at fault
for a numeral, given for an entry that can be compared, ends the check: no entry then has an
outcome, and those after it are not asked for. -/
theorem check_isolates {resolved : Resolved} {lookup : Text → Run Lookup} {answer : Text → Lookup}
    (hpresent : ∀ name, ∀ version ∈ resolved.versions name, ∃ t, version = .str t ∧ Version.HasShortRuns t)
    (hanswers : AnswersAs lookup answer) (advisory : Bool) :
    (∀ watched, (∀ dependency ∈ watched, Settles resolved answer dependency) →
      ∃ outcomes, (check resolved lookup advisory watched).result = .ok outcomes ∧
        List.Forall₂ (IsOwnOutcome resolved answer advisory) watched outcomes ∧
        (check resolved lookup advisory watched).trace.lookups = comparableNames resolved watched ∧
        (DependencyOutcome.violations outcomes).map Violation.ground =
          (outcomes.filter (·.Fails)).map DependencyOutcome.failure) ∧
    (∀ before after, (∀ dependency ∈ before ++ after, Settles resolved answer dependency) →
      ∃ outcomes later, (check resolved lookup advisory before).result = .ok outcomes ∧
        (check resolved lookup advisory after).result = .ok later ∧
        (check resolved lookup advisory (before ++ after)).result = .ok (outcomes ++ later) ∧
        (check resolved lookup advisory (before ++ after)).trace.lookups =
          (check resolved lookup advisory before).trace.lookups ++
            (check resolved lookup advisory after).trace.lookups ∧
        DependencyOutcome.violations (outcomes ++ later) =
          DependencyOutcome.violations outcomes ++ DependencyOutcome.violations later) ∧
    (∀ dependency, (answer dependency.name).HasShortRuns → Settles resolved answer dependency) ∧
    ∀ before dependency after, (∀ earlier ∈ before, Settles resolved answer earlier) →
      ¬Settles resolved answer dependency →
        (check resolved lookup advisory (before ++ dependency :: after)).result = .error .unreadableNumeral ∧
        (check resolved lookup advisory (before ++ dependency :: after)).trace.lookups =
          comparableNames resolved before ++ [dependency.name] := by
  have hdecided (name : Text) := decided_of_short (hpresent name)
  refine ⟨?_, ?_, ?_, ?_⟩
  · intro watched hsettle
    obtain ⟨outcomes, hcheck, hall, hlookups⟩ := check_settled hdecided hanswers advisory hsettle
    exact ⟨outcomes, hcheck, hall, hlookups, DependencyOutcome.violations_ground_eq outcomes⟩
  · intro before after hsettle
    obtain ⟨hfirst, hsecond⟩ := List.forall_mem_append.mp hsettle
    obtain ⟨outcomes, hbefore, _⟩ := check_settled hdecided hanswers advisory hfirst
    obtain ⟨later, hafter, _⟩ := check_settled hdecided hanswers advisory hsecond
    have hboth := check_append_of_ok hbefore hafter
    refine ⟨outcomes, later, hbefore, hafter, by rw [hboth], by rw [hboth, Trace.lookups_append], ?_⟩
    exact List.filterMap_append
  · intro dependency hruns _
    exact hruns.isDecided
  · intro before dependency after hsettle hunsettled
    exact check_unsettled hdecided hanswers advisory hsettle hunsettled after

def mixedResolved : Resolved :=
  [(.str "serde", [.str "1.0.0"]), (.str "log", [.str "latest"]), (.str "rand", [.str "latest", .str "0.8.5"]),
    (.str "tokio", [.str "1.38.0"])]

/-- A registry that knows one of them, does not answer for the others, and is at fault for a numeral
of the last. -/
def mixedAnswer (name : Text) : Lookup :=
  if name = "serde" then .found (.str "1.0.1")
  else if name = "tokio" then .found (.str longRelease)
  else .refused "crates.io request failed (404)"

def mixedWatch : List Watched :=
  [⟨"serde", "runtime", true⟩, ⟨"log", "unknown", false⟩, ⟨"rand", "unknown", false⟩, ⟨"serde", "unknown", false⟩]

private theorem mixedResolved_short (name : Text) :
    ∀ version ∈ mixedResolved.versions name, ∃ t, version = .str t ∧ Version.HasShortRuns t := by
  have hshort {t : Text} (h : t.length ≤ Text.digitLimit) : ∃ u, Json.str t = .str u ∧ Version.HasShortRuns u :=
    ⟨t, rfl, Version.hasShortRuns_of_length h⟩
  have hall : ∀ known ∈ mixedResolved, ∀ version ∈ known.2, ∃ t, version = .str t ∧ Version.HasShortRuns t := by
    simp only [mixedResolved, List.forall_mem_cons]
    exact ⟨⟨hshort (by decide), by simp⟩, ⟨hshort (by decide), by simp⟩,
      ⟨hshort (by decide), hshort (by decide), by simp⟩, ⟨hshort (by decide), by simp⟩, by simp⟩
  obtain hnil | ⟨known, hknown, heq⟩ := mixedResolved.versions_eq_nil_or_mem name
  · rw [hnil]
    exact List.forall_mem_nil _
  · rw [heq]
    exact hall known hknown

private theorem mixedAnswer_answers : AnswersAs (fun name => return mixedAnswer name) mixedAnswer :=
  ⟨fun _ => rfl, fun _ => rfl⟩

private theorem mixedAnswer_short {name : Text} (h : name ≠ "tokio") :
    (mixedAnswer name).HasShortRuns := by
  intro s hs
  unfold mixedAnswer at hs
  split_ifs at hs
  cases hs
  exact Version.hasShortRuns_of_length (by decide)

/-- Four entries, one after the other, have their own outcomes. -/
theorem check_isolates_mixed :
    ∃ outcomes, (check mixedResolved (fun name => return mixedAnswer name) false mixedWatch).result = .ok outcomes ∧
      List.Forall₂ (IsOwnOutcome mixedResolved mixedAnswer false) mixedWatch outcomes ∧
      (check mixedResolved (fun name => return mixedAnswer name) false mixedWatch).trace.lookups =
        ["serde", "rand", "serde"] ∧
      (DependencyOutcome.violations outcomes).map Violation.ground =
        (outcomes.filter (·.Fails)).map DependencyOutcome.failure := by
  obtain ⟨hsettled, _, hshort, _⟩ := check_isolates mixedResolved_short mixedAnswer_answers false
  apply hsettled
  have hother : ∀ dependency ∈ mixedWatch, dependency.name ≠ "tokio" := by decide
  intro dependency hdependency
  exact hshort dependency (mixedAnswer_short (hother dependency hdependency))

/-- One answer of the registry ends the check for a package that has an outcome when it is checked
alone. -/
theorem check_ends_at_tokio :
    let watched : List Watched := [⟨"tokio", "unknown", false⟩, ⟨"rand", "unknown", false⟩]
    (check mixedResolved (fun name => return mixedAnswer name) false watched).result = .error .unreadableNumeral ∧
      (check mixedResolved (fun name => return mixedAnswer name) false watched).trace.lookups = ["tokio"] ∧
      comparableNames mixedResolved watched = ["tokio", "rand"] ∧
      ∃ outcome, (checkOne mixedResolved (fun name => return mixedAnswer name) false
        ⟨"rand", "unknown", false⟩).result = .ok outcome := by
  have hpresent (name : Text) := decided_of_short (mixedResolved_short name)
  have htokio : ¬Settles mixedResolved mixedAnswer ⟨"tokio", "unknown", false⟩ := by
    intro hsettles
    have hcomparable : Watched.isComparable mixedResolved ⟨"tokio", "unknown", false⟩ = true := rfl
    exact longRelease_not_isDecided (hsettles (Watched.isComparable_iff.mp hcomparable) longRelease rfl)
  have hrand : Settles mixedResolved mixedAnswer ⟨"rand", "unknown", false⟩ :=
    fun _ => (mixedAnswer_short (by decide)).isDecided
  obtain ⟨hresult, hlookups⟩ :=
    check_unsettled hpresent mixedAnswer_answers false (List.forall_mem_nil _) htokio [⟨"rand", "unknown", false⟩]
  obtain ⟨outcome, hone, _⟩ := checkOne_settled (hpresent _) mixedAnswer_answers hrand false
  exact ⟨hresult, hlookups, rfl, outcome, hone⟩

end Freshness

end CrateGuard
