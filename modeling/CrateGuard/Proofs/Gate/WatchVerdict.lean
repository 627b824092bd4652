import CrateGuard.Gate.Watch
import CrateGuard.Proofs.Freshness.Check
import CrateGuard.Proofs.Graph.Resolution
import CrateGuard.Proofs.Source.Legible

/-! The verdict of a watch in terms of its watch list, the packages of the graph and the answers of
the registry, whatever the backends are that give them. A watch that leaves no artifacts passes in
strict mode if and only if every watched package is fresh. -/

namespace CrateGuard.WatchJob

theorem verdict_exitCode (found : Findings) :
    (verdict false found).exitCode = 0 ↔ found.violations = [] := by
  unfold verdict
  cases found.violations <;> simp [Verdict.exitCode]

section
variable {backends : WatchBackends} {world : World} {files : FileTree} {job : WatchJob}

theorem runWith_of_fault {fault : InputFault}
    (h : (job.inputs backends files).result = .ok (.error fault)) :
    (job.runWith backends world files).2.result = .ok .fail := by
  rw [runWith, Act.result_bind]
  simp [h, InputFault.report]

theorem runWith_of_inputs (hsummary : job.summary = none) (htable : job.tableDirectory = none)
    {watched : List Watched} {resolved : Resolved}
    (h : (job.inputs backends files).result = .ok (.ok (watched, resolved))) {outcomes : List DependencyOutcome}
    (hcheck : (Freshness.check resolved backends.latest job.advisory watched).result = .ok outcomes) :
    (job.runWith backends world files).2.result =
      .ok (verdict job.advisory ⟨outcomes, DependencyOutcome.violations outcomes⟩) := by
  rw [runWith, Act.result_bind]
  simp [h, findings, hcheck, leaveSummary, leaveTable, hsummary, htable, Act.result_bind]

/-- A watch list that cannot be loaded is a fault of the inputs. -/
theorem inputs_of_settingsFault {fault : SettingsFault}
    (h : (Watchlist.load files job.watchlist).result = .ok (.error fault)) :
    (job.inputs backends files).result = .ok (.error (.settings job.watchlist fault)) := by
  rw [inputs, Run.result_bind, h]
  rfl

/-- So is a graph that cannot be read. -/
theorem inputs_of_sourceFault {watched : List Watched} {fault : SourceFault}
    (hload : (Watchlist.load files job.watchlist).result = .ok (.ok watched))
    (h : (backends.packages files).result = .ok (.error fault)) :
    (job.inputs backends files).result = .ok (.error (.evidence fault)) := by
  rw [inputs, Run.result_bind, hload, ok_bind]
  simp [h]

theorem inputs_eq_of_packages {watched : List Watched} {packages : List PackageRecord}
    {resolved : Resolved}
    (hload : (Watchlist.load files job.watchlist).result = .ok (.ok watched))
    (hpackages : (backends.packages files).result = .ok (.ok packages))
    (hresolved : (Resolved.ofPackages packages).result = .ok resolved) :
    job.inputs backends files =
      ⟨.ok (.ok (watched, resolved)), (Watchlist.load files job.watchlist).trace ++
        ((backends.packages files).trace ++ ((Resolved.ofPackages packages).trace ++ Trace.empty))⟩ := by
  rw [inputs, Run.bind_of_ok hload]
  dsimp only
  rw [Run.bind_of_ok hpackages]
  dsimp only
  rw [Run.bind_of_ok hresolved]
  rfl

theorem inputs_of_packages {watched : List Watched} {packages : List PackageRecord}
    {resolved : Resolved}
    (hload : (Watchlist.load files job.watchlist).result = .ok (.ok watched))
    (hpackages : (backends.packages files).result = .ok (.ok packages))
    (hresolved : (Resolved.ofPackages packages).result = .ok resolved) :
    (job.inputs backends files).result = .ok (.ok (watched, resolved)) := by
  rw [inputs_eq_of_packages hload hpackages hresolved]

/-- A watch in strict mode that leaves no artifacts fails if its watch list or its graph cannot be
loaded. Otherwise it decides, and it passes if and only if every watched package is fresh: a package
of its name from the registry has a version, the registry gives one for it, and if updates fail the
run then some such package has a version as high as that. -/
theorem runWith_passes_iff (backends : WatchBackends) (world : World) (files : FileTree)
    (job : WatchJob)
    (hstrict : job.advisory = false) (hsummary : job.summary = none) (htable : job.tableDirectory = none) :
    (∀ fault, (Watchlist.load files job.watchlist).result = .ok (.error fault) →
      (job.runWith backends world files).2.result.map Verdict.exitCode = .ok 1) ∧
    (∀ watched fault, (Watchlist.load files job.watchlist).result = .ok (.ok watched) →
      (backends.packages files).result = .ok (.error fault) →
      (job.runWith backends world files).2.result.map Verdict.exitCode = .ok 1) ∧
    ∀ watched packages (answer : Text → Lookup),
      (Watchlist.load files job.watchlist).result = .ok (.ok watched) →
      (backends.packages files).result = .ok (.ok packages) →
      (∀ record ∈ packages, record.IsPlain ∧ ∀ t, record.version = .str t → Version.HasShortRuns t) →
      (∀ name, (backends.latest name).result = .ok (answer name) ∧ (answer name).IsPlain) →
      ∃ code, (job.runWith backends world files).2.result.map Verdict.exitCode = .ok code ∧
        (code = 0 ↔ ∀ dependency ∈ watched,
          dependency.IsFresh (fun t => ∃ record ∈ packages, record.Resolves dependency.name t)
            (answer dependency.name)) := by
  refine ⟨?_, ?_, ?_⟩
  · intro fault h
    rw [runWith_of_fault (inputs_of_settingsFault h)]
    rfl
  · intro watched fault hload h
    rw [runWith_of_fault (inputs_of_sourceFault hload h)]
    rfl
  · intro watched packages answer hload hpackages hplain hanswer
    obtain ⟨resolved, hresolved, hcollects⟩ := Resolved.ofPackages_collects fun record h => (hplain record h).1
    have hpresent : ∀ name, ∀ version ∈ resolved.versions name,
        ∃ t, version = .str t ∧ Version.HasShortRuns t := by
      intro name version hversion
      obtain ⟨record, hmem, t, rfl, h⟩ := (hcollects.mem_iff name version).mp hversion
      exact ⟨t, rfl, (hplain record hmem).2 t h.2.1⟩
    obtain ⟨outcomes, hcheck, hiff⟩ := Freshness.check_result watched hpresent
      (fun name => (hanswer name).1) (fun name => (hanswer name).2) job.advisory
    have hinputs := inputs_of_packages hload hpackages hresolved
    refine ⟨(verdict false ⟨outcomes, DependencyOutcome.violations outcomes⟩).exitCode, ?_, ?_⟩
    · rw [runWith_of_inputs hsummary htable hinputs hcheck, hstrict]
      rfl
    · rw [verdict_exitCode, hiff]
      simp only [hcollects.str_mem_iff]

end

def singleWatch : WatchJob :=
  ⟨.asWritten "watch.json", .files none none, ⟨[], .null, []⟩, false, none, none, none⟩

def singleList : String :=
  "\x7b\"dependencies\": [\x7b\"name\": \"serde\", \"fail_on_update\": true\x7d]\x7d"

def singleFiles : FileTree :=
  ⟨[(⟨false, 0, ["watch.json".toByteArray.toList]⟩, .file singleList.toByteArray)]⟩

def singlePackages : List PackageRecord :=
  [⟨.str "serde", .str "1.0.9", .null⟩, ⟨.str "serde", .str "1.0.10", .str "registry+index"⟩]

def singleBackends : WatchBackends :=
  ⟨fun _ => return .ok singlePackages, fun _ => return .found (.str "1.0.10+build")⟩

def singleWorld : World :=
  ⟨default, fun _ => .failed ⟨.value, []⟩, none, none, fun _ => none, fun _ => false⟩

theorem singleWatch_load :
    (Watchlist.load singleFiles singleWatch.watchlist).result = .ok (.ok [⟨"serde", "unknown", true⟩]) := by
  have hread (bytes : ByteArray) :
      FileTree.read ⟨[(⟨false, 0, ["watch.json".toByteArray.toList]⟩, .file bytes)]⟩ singleWatch.watchlist.path =
        .ok bytes := by
    cbv
  have hvalue : Json.decode Json.nestingLimit (Text.ofString singleList).unifyNewlines =
      .ok (.ok (.obj [("dependencies", .arr [.obj [("name", .str "serde"), ("fail_on_update", .bool true)]])])) := by
    cbv
  exact Settings.result_load_of_value (Settings.readFile_eq_ok rfl (hread _) hvalue)

theorem singlePackages_plain : ∀ record ∈ singlePackages,
    record.IsPlain ∧ ∀ t, record.version = .str t → Version.HasShortRuns t := by
  intro record hmem
  simp only [singlePackages, List.mem_cons, List.not_mem_nil, or_false] at hmem
  rcases hmem with rfl | rfl
  · refine ⟨⟨⟨_, rfl⟩, ⟨_, rfl⟩, Or.inl rfl⟩, ?_⟩
    rintro t h
    cases h
    exact Version.hasShortRuns_of_length (by decide)
  · refine ⟨⟨⟨_, rfl⟩, ⟨_, rfl⟩, Or.inr ⟨_, rfl⟩⟩, ?_⟩
    rintro t h
    cases h
    exact Version.hasShortRuns_of_length (by decide)

/-- The higher of two resolved versions is what is compared with the latest release. -/
theorem runWith_passes_single :
    (singleWatch.runWith singleBackends singleWorld singleFiles).2.result.map Verdict.exitCode = .ok 0 := by
  obtain ⟨_, _, hdecides⟩ := runWith_passes_iff singleBackends singleWorld singleFiles singleWatch rfl rfl rfl
  have hanswer (name : Text) : (singleBackends.latest name).result = .ok (.found (.str "1.0.10+build")) ∧
      (Lookup.found (.str "1.0.10+build")).IsPlain :=
    ⟨rfl, "1.0.10+build", rfl, Version.hasShortRuns_of_length (by decide)⟩
  obtain ⟨code, hcode, hiff⟩ := hdecides _ _ _ singleWatch_load rfl singlePackages_plain hanswer
  have hpresent : ∃ record ∈ singlePackages, record.Resolves "serde" "1.0.10" :=
    ⟨⟨.str "serde", .str "1.0.10", .str "registry+index"⟩, by simp [singlePackages], rfl, rfl,
      Or.inr ⟨_, rfl, Or.inr ⟨"index", rfl⟩⟩⟩
  have hparse : Version.parse "1.0.10" = .ok ⟨1, 0, 10, []⟩ := by rfl
  have hlatest : Version.parse "1.0.10+build" = .ok ⟨1, 0, 10, []⟩ := by rfl
  have hzero : code = 0 := by
    rw [hiff]
    intro dependency hmem
    rw [List.mem_singleton.mp hmem]
    exact ⟨⟨_, _, hpresent, hparse⟩, _, _, rfl, hlatest, Or.inr ⟨_, _, hpresent, hparse, rfl⟩⟩
  rw [hcode, hzero]

end CrateGuard.WatchJob
