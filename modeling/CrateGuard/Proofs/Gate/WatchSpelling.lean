import CrateGuard.Proofs.Freshness.Spelling
import CrateGuard.Proofs.Gate.Search

/-! Spellings of versions and the verdict of a watch. Whoever spells the versions in the graph and
in the registry in other ways changes no verdict. The texts that are shown and written do change,
and a text without a UTF-8 form can keep a watch from writing its artifacts; so of watches that
leave artifacts only the verdicts they come to are compared. -/

namespace CrateGuard.WatchJob

section
variable {first second : WatchBackends} {files : FileTree} {job : WatchJob} {watched : List Watched}
variable {resolved other : Resolved}

/-- Watches that are given the same but for spelling find what leads to the same verdict. -/
private theorem search_spelling
    (hfirst : (job.inputs first files).result = .ok (.ok (watched, resolved)))
    (hsecond : (job.inputs second files).result = .ok (.ok (watched, other)))
    (h : ∀ dependency ∈ watched,
      Freshness.SuppliesAlike resolved other first.latest second.latest dependency.name) :
    ∃ found others, (job.search first files).result = .ok (.ok found) ∧
      (job.search second files).result = .ok (.ok others) ∧
        verdict job.advisory found = verdict job.advisory others := by
  obtain ⟨outcomes, others, hcheck, hotherCheck, hstandings⟩ := Freshness.check_spelling h job.advisory
  refine ⟨⟨outcomes, DependencyOutcome.violations outcomes⟩, ⟨others, DependencyOutcome.violations others⟩,
    search_eq_found_iff.mpr ⟨watched, resolved, hfirst, hcheck, rfl⟩,
    search_eq_found_iff.mpr ⟨watched, other, hsecond, hotherCheck, rfl⟩, ?_⟩
  have hgrounds : (DependencyOutcome.violations outcomes).map Violation.ground =
      (DependencyOutcome.violations others).map Violation.ground := by
    rw [DependencyOutcome.map_ground_violations, DependencyOutcome.map_ground_violations, hstandings]
  have hempty := congrArg List.isEmpty hgrounds
  rw [List.isEmpty_map, List.isEmpty_map] at hempty
  rw [verdict, verdict, hempty]

/-- In any other spelling of the versions a check finds the same about every watched package, in the
same order, and so the violations are of the same kinds and about the same packages. A watch without
artifacts comes to a verdict in either spelling, and to the same one; watches with artifacts come to
the same one if they come to one at all. -/
theorem spelling_keeps_verdict :
    (∀ (first second : Resolved) (lookup other : Text → Run Lookup) (watched : List Watched),
      (∀ dependency ∈ watched, Freshness.SuppliesAlike first second lookup other dependency.name) →
      ∀ advisory, ∃ outcomes others,
        (Freshness.check first lookup advisory watched).result = .ok outcomes ∧
        (Freshness.check second other advisory watched).result = .ok others ∧
        outcomes.map DependencyOutcome.standing = others.map DependencyOutcome.standing ∧
        (DependencyOutcome.violations outcomes).map Violation.ground =
          (DependencyOutcome.violations others).map Violation.ground) ∧
    ∀ (first second : WatchBackends) (files : FileTree) (job : WatchJob) (watched : List Watched)
        (resolved other : Resolved),
      (job.inputs first files).result = .ok (.ok (watched, resolved)) →
      (job.inputs second files).result = .ok (.ok (watched, other)) →
      (∀ dependency ∈ watched,
        Freshness.SuppliesAlike resolved other first.latest second.latest dependency.name) →
      ∀ world,
        (∃ decided, (job.withoutArtifacts.runWith first world files).2.result = .ok decided ∧
          (job.withoutArtifacts.runWith second world files).2.result = .ok decided) ∧
        ∀ decided given, (job.runWith first world files).2.result = .ok decided →
          (job.runWith second world files).2.result = .ok given → decided = given := by
  constructor
  · intro first second lookup other watched h advisory
    obtain ⟨outcomes, others, hcheck, hotherCheck, hstandings⟩ := Freshness.check_spelling h advisory
    refine ⟨outcomes, others, hcheck, hotherCheck, hstandings, ?_⟩
    rw [DependencyOutcome.map_ground_violations, DependencyOutcome.map_ground_violations, hstandings]
  · intro first second files job watched resolved other hfirst hsecond h world
    obtain ⟨found, others, hfound, hothers, hverdict⟩ := search_spelling hfirst hsecond h
    constructor
    · refine ⟨verdict job.advisory found, ?_, ?_⟩
      · rw [runWith_withoutArtifacts, Run.mapResult, hfound]
        rfl
      · rw [runWith_withoutArtifacts, Run.mapResult, hothers, hverdict]
        rfl
    · intro decided given hdecided hgiven
      rw [eq_verdict_of_found hfound hdecided, eq_verdict_of_found hothers hgiven, hverdict]

end

def spelledTwice : List PackageRecord :=
  [⟨.str "serde", .str "1.0.0-rc.1+a", .null⟩, ⟨.str "serde", .str "1.0.0-rc.01", .null⟩]

def spelledOnce : List PackageRecord :=
  [⟨.str "serde", .str "1.0.0-rc.001+z", .null⟩]

def spelledBackends (packages : List PackageRecord) (latest : Text) : WatchBackends :=
  ⟨fun _ => return .ok packages, fun _ => return .found (.str latest)⟩

private theorem supplies_short {resolved : Resolved} {name : Text} (packages : List PackageRecord)
    (texts : List Text)
    (latest : Text) (hversions : resolved.versions name = texts.map Json.str)
    (htexts : ∀ t ∈ texts, t.length ≤ Text.digitLimit) (hlatest : latest.length ≤ Text.digitLimit) :
    Freshness.Supplies resolved (spelledBackends packages latest).latest name (.found (.str latest)) := by
  refine ⟨?_, rfl, ?_⟩
  · rw [hversions, List.forall_mem_map]
    exact fun t ht => ⟨t, rfl, Version.hasShortRuns_of_length (htexts t ht)⟩
  · rintro _ ⟨⟩
    exact Version.hasShortRuns_of_length hlatest

private theorem spelled_alike :
    Freshness.SuppliesAlike [(.str "serde", [.str "1.0.0-rc.1+a", .str "1.0.0-rc.01"])]
      [(.str "serde", [.str "1.0.0-rc.001+z"])] (spelledBackends spelledTwice "1.0.0-rc.1").latest
      (spelledBackends spelledOnce "1.0.0-rc.01+x").latest "serde" := by
  have hagrees {s t : Text} {v w : Version} (hs : Version.parse s = .ok v) (ht : Version.parse t = .ok w)
      (heq : v.precedence w = .eq) : Version.Respells s t :=
    .inr ⟨v, w, hs, ht, Version.agrees_iff.mpr heq⟩
  have hfirst : Version.Respells "1.0.0-rc.1+a" "1.0.0-rc.001+z" := hagrees rfl rfl rfl
  have hsecond : Version.Respells "1.0.0-rc.01" "1.0.0-rc.001+z" := hagrees rfl rfl rfl
  have hlatest : Version.Respells "1.0.0-rc.1" "1.0.0-rc.01+x" := hagrees rfl rfl rfl
  refine ⟨.found (.str "1.0.0-rc.1"), .found (.str "1.0.0-rc.01+x"), ?_, ?_, .inr ⟨_, _, rfl, rfl, hlatest⟩, ?_⟩
  · exact supplies_short spelledTwice ["1.0.0-rc.1+a", "1.0.0-rc.01"] _ rfl (by decide) (by decide)
  · exact supplies_short spelledOnce ["1.0.0-rc.001+z"] _ rfl (by decide) (by decide)
  · constructor
    · intro s hs
      refine ⟨"1.0.0-rc.001+z", List.mem_singleton.mpr rfl, ?_⟩
      rcases List.mem_cons.mp hs with h | h
      · cases h
        exact hfirst
      · cases List.mem_singleton.mp h
        exact hsecond
    · intro t ht
      cases List.mem_singleton.mp ht
      exact ⟨"1.0.0-rc.1+a", List.mem_cons_self, hfirst⟩

/-- Two spellings that become one, beside an answer spelled in another way. -/
theorem spelling_keeps_verdict_merged :
    ∃ decided,
      (singleWatch.runWith (spelledBackends spelledTwice "1.0.0-rc.1") singleWorld singleFiles).2.result = .ok decided ∧
      (singleWatch.runWith (spelledBackends spelledOnce "1.0.0-rc.01+x") singleWorld singleFiles).2.result =
        .ok decided := by
  have hinputs {packages : List PackageRecord} {resolved : Resolved} (latest : Text)
      (hresolved : (Resolved.ofPackages packages).result = .ok resolved) :
      (singleWatch.inputs (spelledBackends packages latest) singleFiles).result =
        .ok (.ok ([⟨"serde", "unknown", true⟩], resolved)) :=
    inputs_of_packages singleWatch_load rfl hresolved
  exact (spelling_keeps_verdict.2 _ _ singleFiles singleWatch _ _ _ (hinputs _ rfl) (hinputs _ rfl)
    (List.forall_mem_singleton.mpr spelled_alike) singleWorld).1

end CrateGuard.WatchJob
