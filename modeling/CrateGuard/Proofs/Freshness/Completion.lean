import CrateGuard.Proofs.Freshness.Check

/-! Whether a check comes to its end. A text with a numeral that is too long is neither read as a
version nor refused. Where the registry gives such a text for a package that can be compared, the
check crashes and no package gets an outcome. Nothing else that the registry gives can end it. -/

namespace CrateGuard.Freshness

/-- A latest release that is at fault for a numeral ends the check, whether it is met when the
release is read or when it is compared. -/
private theorem judge_of_not_isDecided (dependency : Watched) (advisory : Bool) (current : Text)
    {s : Text}
    (h : ¬Version.IsDecided s) :
    (judge dependency advisory current (.found (.str s))).result = .error .unreadableNumeral := by
  cases hparse : Version.parse s with
  | ok v =>
    have hread : Version.tryOfJson (.str s) = .ok (some v) := Version.tryParse_of_ok hparse
    have horder : ∃ fault, Version.orderTexts s current = .error fault := by
      cases hcanonical : v.canonical with
      | ok x =>
        have hshort := (Version.parse_wellFormed hparse).hasShortNumerals_of_canonical hcanonical
        exact absurd (.inl ⟨v, hparse, hshort⟩) h
      | error fault => exact ⟨fault, by rw [Version.orderTexts, Version.orderRead, hparse, ok_bind, hcanonical]; rfl⟩
    obtain ⟨fault, hfault⟩ := horder
    simp [judge, orCrash, hread, Json.text, hfault, VersionFault.crash]
  | error fault =>
    have hread : Version.tryOfJson (.str s) = .error fault := by
      cases fault with
      | refused refusal => exact absurd (.inr ⟨refusal, hparse⟩) h
      | _ => rw [Version.tryOfJson, Version.ofJson, hparse]; rfl
    simp [judge, orCrash, hread, VersionFault.crash]

/-- So a package that can be compared has no outcome if the answer for it is at fault. -/
theorem checkOne_of_not_isDecided {resolved : Resolved} {lookup : Text → Run Lookup}
    {dependency : Watched}
    {answer : Lookup}
    (hpresent : ∀ version ∈ resolved.versions dependency.name, ∃ t, version = .str t ∧ Version.IsDecided t)
    (hanswer : (lookup dependency.name).result = .ok answer)
    (hversion : HasVersion fun t => .str t ∈ resolved.versions dependency.name) (hfault : ¬answer.IsDecided)
    (advisory : Bool) : (checkOne resolved lookup advisory dependency).result = .error .unreadableNumeral := by
  obtain ⟨s, rfl, hundecided⟩ : ∃ s, answer = .found (.str s) ∧ ¬Version.IsDecided s := by
    simpa [Lookup.IsDecided] using hfault
  obtain ⟨present, hmem, hcases⟩ := checkOne_cases hpresent hanswer advisory
  rcases hcases with ⟨hnone, _⟩ | ⟨current, w, _, _, hone⟩
  · obtain ⟨t, v, ht, hv⟩ := hversion
    exact absurd hv (hnone t ((hmem t).mpr ht) v)
  · rw [hone, judge_of_not_isDecided dependency advisory current hundecided]

private theorem exists_outcome_of_checkEach {resolved : Resolved}
    {entries : List (Watched × (Text → Run Lookup))}
    {advisory : Bool} {outcomes : List DependencyOutcome}
    (h : (checkEach resolved advisory entries).result = .ok outcomes) :
    ∀ entry ∈ entries, ∃ outcome, (checkOne resolved entry.2 advisory entry.1).result = .ok outcome := by
  induction entries generalizing outcomes with
  | nil => simp
  | cons entry rest ih =>
    obtain ⟨outcome, hone, h⟩ := Run.result_bind_eq_ok.mp h
    obtain ⟨later, hrest, _⟩ := Run.result_bind_eq_ok.mp h
    exact List.forall_mem_cons.mpr ⟨⟨outcome, hone⟩, ih hrest⟩

/-- A check of resolved versions that are not at fault comes to its end if and only if no package
that can be compared gets a latest release that is at fault for a numeral. Each entry then has its
outcome, in order: it is missing if none of its versions can be read, and otherwise not fetched if
the answer is no version. -/
theorem checkEach_completes_iff {resolved : Resolved}
    {entries : List (Watched × (Text → Run Lookup))}
    (hpresent : ∀ entry ∈ entries, ∀ version ∈ resolved.versions entry.1.name,
      ∃ t, version = .str t ∧ Version.IsDecided t)
    (hanswer : ∀ entry ∈ entries, ∃ answer, (entry.2 entry.1.name).result = .ok answer) (advisory : Bool) :
    (∃ outcomes, (checkEach resolved advisory entries).result = .ok outcomes ∧
      List.Forall₂ (fun entry outcome => ∃ answer, (entry.2 entry.1.name).result = .ok answer ∧
        outcome.Accounts (fun t => .str t ∈ resolved.versions entry.1.name) entry.1 answer) entries outcomes) ↔
      ∀ entry ∈ entries, HasVersion (fun t => .str t ∈ resolved.versions entry.1.name) →
        ∀ s, (entry.2 entry.1.name).result = .ok (.found (.str s)) → Version.IsDecided s := by
  constructor
  · rintro ⟨outcomes, hcheck, _⟩ entry hentry ⟨t, w, ht, hw⟩ s hs
    obtain ⟨outcome, hone⟩ := exists_outcome_of_checkEach hcheck entry hentry
    obtain ⟨present, hmem, hcases⟩ := checkOne_cases (hpresent entry hentry) hs advisory
    rcases hcases with ⟨hnone, _⟩ | ⟨current, _, _, _, hjudge⟩
    · exact absurd hw (hnone t ((hmem t).mpr ht) w)
    · apply Classical.byContradiction
      intro hfault
      rw [hjudge, judge_of_not_isDecided entry.1 advisory current hfault] at hone
      cases hone
  · intro hdecided
    apply checkEach_result hpresent
    intro entry hentry
    obtain ⟨answer, hgiven⟩ := hanswer entry hentry
    refine ⟨answer, hgiven, ?_⟩
    rintro hversion s rfl
    exact hdecided entry hentry hversion s hgiven

/-- A release whose first number has one digit more than can be read. -/
def longRelease : Text :=
  List.replicate (Text.digitLimit + 1) (CodePoint.char '1') ++ Text.ofString ".0.0"

private theorem parse_longRelease : Version.parse longRelease = .error .longNumeral := by
  have hdigits : ∀ c ∈ List.replicate (Text.digitLimit + 1) (CodePoint.char '1'), Text.isAsciiDigit c = true := by
    intro c hc
    rw [(List.mem_replicate.mp hc).2]
    rfl
  have hlong : Text.digitLimit < (List.replicate (Text.digitLimit + 1) (CodePoint.char '1')).length := by
    rw [List.length_replicate]
    exact Nat.lt_succ_self _
  unfold longRelease
  exact Version.parse_of_long_major hdigits hlong

theorem longRelease_not_isDecided : ¬Version.IsDecided longRelease := by
  rintro (⟨v, hv, _⟩ | ⟨refusal, hrefused⟩)
  · cases parse_longRelease.symm.trans hv
  · cases parse_longRelease.symm.trans hrefused

/-- A long release does no harm where there is no version to compare it with. -/
theorem checkEach_completes_unread :
    let resolved : Resolved := [(.str "serde", [.str "1.0.9", .str "1.0.10"])]
    let entries : List (Watched × (Text → Run Lookup)) :=
      [(⟨"serde", "unknown", true⟩, fun _ => return .found (.str "1.0.10+build")),
        (⟨"rand", "unknown", true⟩, fun _ => return .found (.str longRelease))]
    ∃ outcomes, (checkEach resolved false entries).result = .ok outcomes ∧
      List.Forall₂ (fun entry outcome => ∃ answer, (entry.2 entry.1.name).result = .ok answer ∧
        outcome.Accounts (fun t => .str t ∈ resolved.versions entry.1.name) entry.1 answer) entries outcomes := by
  intro resolved entries
  have hserde : resolved.versions "serde" = [.str "1.0.9", .str "1.0.10"] := rfl
  have hrand : resolved.versions "rand" = [] := rfl
  refine (checkEach_completes_iff ?_ ?_ false).mpr ?_
  · simp only [entries, List.forall_mem_cons, hserde, hrand]
    refine ⟨⟨⟨_, rfl, ?_⟩, ⟨_, rfl, ?_⟩, by simp⟩, by simp, by simp⟩
    · exact (Version.hasShortRuns_of_length (by decide)).isDecided
    · exact (Version.hasShortRuns_of_length (by decide)).isDecided
  · simp only [entries, List.forall_mem_cons]
    exact ⟨⟨_, rfl⟩, ⟨_, rfl⟩, by simp⟩
  · simp only [entries, List.forall_mem_cons]
    refine ⟨?_, ?_, by simp⟩
    · intro _ s hs
      cases hs
      exact (Version.hasShortRuns_of_length (by decide)).isDecided
    · rintro ⟨t, _, ht, _⟩
      cases ht

/-- One answer of the registry ends the check of all packages, and so does one resolved version. -/
theorem check_longRelease :
    (check [(.str "serde", [.str "1.0.0"])] (fun _ => return .found (.str longRelease)) false
        [⟨"serde", "unknown", false⟩]).result = .error .unreadableNumeral ∧
      (check [(.str "serde", [.str longRelease])] (fun _ => return .found (.str "1.0.0")) false
        [⟨"serde", "unknown", false⟩]).result = .error .unreadableNumeral := by
  constructor
  · have hversions : Resolved.versions [(.str "serde", [.str "1.0.0"])] "serde" = [.str "1.0.0"] := rfl
    have hsorted : sortedTexts [.str "1.0.0"] = .ok ["1.0.0"] := by
      simp [sortedTexts, Version.textsOf]
    have hbest : Version.highest ["1.0.0"] = .ok (some "1.0.0") := rfl
    have hjudge (dependency : Watched) := judge_of_not_isDecided dependency false "1.0.0" longRelease_not_isDecided
    simp [check, checkOne, hversions, hsorted, hbest, hjudge, orCrash]
  · have hversions : Resolved.versions [(.str "serde", [.str longRelease])] "serde" = [.str longRelease] := rfl
    have hsorted : sortedTexts [.str longRelease] = .ok [longRelease] := by
      simp [sortedTexts, Version.textsOf]
    have hbest : Version.highest [longRelease] = .error .longNumeral := by
      simp [Version.highest, Version.better, Version.tryParse, parse_longRelease, Version.orNothing]
    simp [check, checkOne, hversions, hsorted, hbest, orCrash, VersionFault.crash]

end CrateGuard.Freshness
