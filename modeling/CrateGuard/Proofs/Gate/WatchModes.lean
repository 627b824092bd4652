import CrateGuard.Proofs.Freshness.Modes
import CrateGuard.Proofs.Gate.Search

/-! The two modes of a watch. Advisory mode changes what is reported and the verdict, not what is
found: the same is asked and the same violations come out. A watch in advisory mode passes once its
inputs are there, and when it fails the strict one fails as well. -/

namespace CrateGuard.WatchJob

def inMode (job : WatchJob) (advisory : Bool) : WatchJob :=
  { job with advisory }

section
variable {backends : WatchBackends} {world : World} {files : FileTree} {job : WatchJob}
variable {watched : List Watched} {resolved : Resolved}

/-- The inputs of a watch do not depend on its mode. -/
@[simp] theorem inputs_inMode (advisory : Bool) :
    (job.inMode advisory).inputs backends files = job.inputs backends files := rfl

@[simp] theorem verdict_advisory (found : Findings) : verdict true found = .pass := by
  simp [verdict]

private theorem runWith_of_crash {crash : Crash}
    (h : (job.inputs backends files).result = .error crash) :
    (job.runWith backends world files).2.result = .error crash := by
  rw [runWith, Act.result_bind, Act.result_reading, h, error_bind]

private theorem exists_fault_of_advisory_fails
    (h : ((job.inMode true).runWith backends world files).2.result.map Verdict.exitCode = .ok 1) :
    ∃ fault, (job.inputs backends files).result = .ok (.error fault) := by
  obtain ⟨decided, hrun, hcode⟩ := map_eq_ok.mp h
  cases hinputs : (job.inputs backends files).result with
  | error crash =>
    rw [← inputs_inMode true] at hinputs
    cases hrun.symm.trans (runWith_of_crash hinputs)
  | ok inputs =>
    cases inputs with
    | error fault => exact ⟨fault, rfl⟩
    | ok given =>
      obtain ⟨watched, resolved⟩ := given
      rw [← inputs_inMode true] at hinputs
      obtain ⟨found, hfound⟩ := exists_found_of_runWith hinputs hrun
      rw [eq_verdict_of_found hfound hrun, inMode, verdict_advisory] at hcode
      cases hcode

private theorem runWith_advisory_passes (hsummary : job.summary = none)
    (htable : job.tableDirectory = none)
    (hinputs : (job.inputs backends files).result = .ok (.ok (watched, resolved)))
    (hplain : ∀ dependency ∈ watched, Freshness.IsPlainEntry resolved (dependency, backends.latest)) :
    ((job.inMode true).runWith backends world files).2.result.map Verdict.exitCode = .ok 0 := by
  obtain ⟨outcomes, hcheck, _⟩ := Freshness.checkEach_of_plain (List.forall_mem_map.mpr hplain) true
  rw [← Freshness.check_eq_checkEach] at hcheck
  rw [← inputs_inMode true] at hinputs
  have hrun := @runWith_of_inputs backends world files (job.inMode true) hsummary htable _ _ hinputs _ hcheck
  rw [hrun, inMode, verdict_advisory]
  rfl

/-- Advisory mode changes reports and verdicts, never what is found. On the same answers it leaves
the same trace as strict mode, questions to the registry included, and gives the same outcomes but
for failing the run, and so the same violations. A watch in advisory mode that has its inputs and
leaves no artifacts passes, and one that fails fails in strict mode too. -/
theorem modes_find_the_same :
    (∀ (resolved : Resolved) (entries : List (Watched × (Text → Run Lookup))),
      (∀ entry ∈ entries, Freshness.IsPlainEntry resolved entry) →
      ∃ outcomes,
        (Freshness.checkEach resolved false entries).result = .ok outcomes ∧
        (Freshness.checkEach resolved true entries).result = .ok (outcomes.map DependencyOutcome.downgraded) ∧
        (Freshness.checkEach resolved true entries).trace = (Freshness.checkEach resolved false entries).trace ∧
        DependencyOutcome.violations (outcomes.map DependencyOutcome.downgraded) =
          DependencyOutcome.violations outcomes) ∧
    (∀ (resolved : Resolved) (lookup : Text → Run Lookup) (advisory : Bool) (watched : List Watched),
      Freshness.check resolved lookup advisory watched =
        Freshness.checkEach resolved advisory (watched.map fun dependency => (dependency, lookup))) ∧
    (∀ (backends : WatchBackends) (world : World) (files : FileTree) (job : WatchJob) (watched : List Watched)
        (resolved : Resolved), job.summary = none → job.tableDirectory = none →
      (job.inputs backends files).result = .ok (.ok (watched, resolved)) →
      (∀ dependency ∈ watched, Freshness.IsPlainEntry resolved (dependency, backends.latest)) →
      ((job.inMode true).runWith backends world files).2.result.map Verdict.exitCode = .ok 0) ∧
    ∀ (backends : WatchBackends) (world : World) (files : FileTree) (job : WatchJob),
      ((job.inMode true).runWith backends world files).2.result.map Verdict.exitCode = .ok 1 →
      ((job.inMode false).runWith backends world files).2.result.map Verdict.exitCode = .ok 1 := by
  refine ⟨?_, Freshness.check_eq_checkEach, ?_, ?_⟩
  · intro resolved entries hplain
    obtain ⟨outcomes, hstrict, _⟩ := Freshness.checkEach_of_plain hplain false
    refine ⟨outcomes, hstrict, ?_, ?_, DependencyOutcome.violations_map_downgraded outcomes⟩
    · rw [Freshness.checkEach_advisory, Run.mapResult, hstrict]
      rfl
    · rw [Freshness.checkEach_advisory, Run.mapResult]
  · intro backends world files job watched resolved hsummary htable hinputs hplain
    exact runWith_advisory_passes hsummary htable hinputs hplain
  · intro backends world files job hadvisory
    obtain ⟨fault, hfault⟩ := exists_fault_of_advisory_fails hadvisory
    rw [← inputs_inMode false] at hfault
    rw [runWith_of_fault hfault]
    rfl

end

def outdatedBackends : WatchBackends :=
  ⟨fun _ => return .ok singlePackages, fun _ => return .found (.str "2.0.0")⟩

def outdatedOutcome : DependencyOutcome :=
  ⟨⟨"serde", "unknown", true⟩, .outdatedFail, some "1.0.10", some "2.0.0", none⟩

private theorem checkEach_outdated :
    (Freshness.checkEach [(.str "serde", [.str "1.0.10"])] false
      [(⟨"serde", "unknown", true⟩, outdatedBackends.latest)]).result = .ok [outdatedOutcome] := by
  have hversions : Resolved.versions [(.str "serde", [.str "1.0.10"])] "serde" = [.str "1.0.10"] := rfl
  have hsorted : Freshness.sortedTexts [.str "1.0.10"] = .ok ["1.0.10"] := by
    simp [Freshness.sortedTexts, Version.textsOf]
  have hbest : Version.highest ["1.0.10"] = .ok (some "1.0.10") := rfl
  have hread : Version.tryOfJson (.str "2.0.0") = .ok (some ⟨2, 0, 0, []⟩) := rfl
  have horder : Version.orderTexts "2.0.0" "1.0.10" = .ok .gt := rfl
  simp [Freshness.checkEach, Freshness.checkOne, hversions, hsorted, hbest, outdatedBackends, Freshness.judge, hread,
    Json.text, horder, Freshness.orCrash, Freshness.ofOrder, outdatedOutcome]

/-- The package is outdated in both modes and a violation in both, which advisory mode lets pass;
without a watch list both modes fail. -/
theorem modes_find_the_same_outdated :
    (Freshness.checkEach [(.str "serde", [.str "1.0.10"])] true
        [(⟨"serde", "unknown", true⟩, outdatedBackends.latest)]).result = .ok [outdatedOutcome.downgraded] ∧
      DependencyOutcome.violations [outdatedOutcome.downgraded] = DependencyOutcome.violations [outdatedOutcome] ∧
      ((singleWatch.inMode true).runWith outdatedBackends singleWorld singleFiles).2.result.map Verdict.exitCode =
        .ok 0 ∧
      ((singleWatch.inMode false).runWith outdatedBackends singleWorld ⟨[]⟩).2.result.map Verdict.exitCode =
        .ok 1 := by
  obtain ⟨hfind, _, hpass, hfail⟩ := modes_find_the_same
  have hanswer : (Lookup.found (.str "2.0.0")).IsPlain := ⟨_, rfl, Version.hasShortRuns_of_length (by decide)⟩
  have hentry : ∀ entry ∈ [((⟨"serde", "unknown", true⟩ : Watched), outdatedBackends.latest)],
      Freshness.IsPlainEntry [(.str "serde", [.str "1.0.10"])] entry := by
    rw [List.forall_mem_singleton]
    refine ⟨?_, _, rfl, hanswer⟩
    rintro version hversion
    rw [List.mem_singleton.mp hversion]
    exact ⟨_, rfl, Version.hasShortRuns_of_length (by decide)⟩
  obtain ⟨outcomes, hstrict, hadvisory, _, hsame⟩ := hfind _ _ hentry
  cases hstrict.symm.trans checkEach_outdated
  refine ⟨hadvisory, hsame, ?_, ?_⟩
  · obtain ⟨resolved, hresolved, hcollects⟩ :=
      Resolved.ofPackages_collects fun record hmem => (singlePackages_plain record hmem).1
    apply hpass _ _ _ _ _ resolved rfl rfl (inputs_of_packages singleWatch_load rfl hresolved)
    rw [List.forall_mem_singleton]
    refine ⟨?_, _, rfl, hanswer⟩
    intro version hversion
    obtain ⟨record, hmem, t, rfl, hresolves⟩ := (hcollects.mem_iff _ _).mp hversion
    exact ⟨t, rfl, (singlePackages_plain record hmem).2 t hresolves.2.1⟩
  · apply hfail
    rw [runWith_of_fault (inputs_of_settingsFault rfl)]
    rfl

end CrateGuard.WatchJob
