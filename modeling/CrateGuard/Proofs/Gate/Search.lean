import CrateGuard.Proofs.Gate.GraphOrder

/-! A watch in two parts. The first finds something and prints it, or finds its inputs at fault; it
reads files and changes none. The second leaves the artifacts that are wanted and gives the verdict
that the first has decided. -/

namespace CrateGuard.WatchJob

def withoutArtifacts (job : WatchJob) : WatchJob :=
  { job with summary := none, tableDirectory := none }

def search (backends : WatchBackends) (job : WatchJob) (files : FileTree) : Run (Except InputFault Findings) := do
  match ← job.inputs backends files with
  | .error fault =>
    let _ ← fault.report watchTool
    return .error fault
  | .ok (watched, resolved) =>
    let found ← job.findings backends watched resolved
    Run.say (report job.advisory found)
    return .ok found

def leaveArtifacts (world : World) (job : WatchJob) (found : Findings) : Act Unit := do
  job.leaveSummary world found
  job.leaveTable world found

def conclude (world : World) (job : WatchJob) : Except InputFault Findings → Act Verdict
  | .error _ => return .fail
  | .ok found => do
    job.leaveArtifacts world found
    return verdict job.advisory found

section
variable {backends : WatchBackends} {world : World} {files : FileTree} {job : WatchJob} {found : Findings}

private theorem runWith_eq_search (backends : WatchBackends) (world : World) (job : WatchJob) :
    job.runWith backends world = Act.reading (job.search backends) >>= job.conclude world := by
  have hsearch : Act.reading (job.search backends) =
      (Act.reading fun files => job.inputs backends files) >>= fun inputs => Act.ofRun (match inputs with
        | .error fault => do
          let _ ← fault.report watchTool
          return .error fault
        | .ok (watched, resolved) => do
          let found ← job.findings backends watched resolved
          Run.say (report job.advisory found)
          return .ok found) := Act.reading_bind _ _
  rw [runWith_eq, hsearch, Act.bind_assoc]
  congr 1
  funext inputs
  cases inputs with
  | error fault => rfl
  | ok given =>
    have hpure (found : Findings) :
        Act.ofRun (Pure.pure (Except.ok found) : Run (Except InputFault Findings)) = Pure.pure (.ok found) := rfl
    simp only [afterInputs, Act.ofRun_bind, Act.bind_assoc, hpure, Act.pure_bind, conclude, leaveArtifacts, Act.say]

def verdictOf (job : WatchJob) : Except InputFault Findings → Verdict
  | .error _ => .fail
  | .ok found => verdict job.advisory found

theorem runWith_withoutArtifacts (backends : WatchBackends) (world : World) (files : FileTree)
    (job : WatchJob) :
    job.withoutArtifacts.runWith backends world files =
      (files, (job.search backends files).mapResult job.verdictOf) := by
  have hsearch : job.withoutArtifacts.search backends = job.search backends := rfl
  rw [runWith_eq_search, hsearch]
  cases hresult : (job.search backends files).result with
  | error crash =>
    rw [Act.reading_bind_of_crash hresult, Run.mapResult, hresult]
    rfl
  | ok inputs =>
    have hconclude : job.withoutArtifacts.conclude world inputs = Pure.pure (job.verdictOf inputs) := by
      cases inputs <;> rfl
    rw [Act.reading_bind_of_ok hresult, hconclude, Run.mapResult, hresult]
    exact congrArg (fun trace => (files, Run.mk _ trace)) (Trace.append_empty _)

theorem runWith_of_found (h : (job.search backends files).result = .ok (.ok found)) :
    job.runWith backends world files =
      ((job.leaveArtifacts world found files).1,
        ⟨(job.leaveArtifacts world found files).2.result.map fun _ => verdict job.advisory found,
          (job.search backends files).trace ++ (job.leaveArtifacts world found files).2.trace⟩) := by
  rw [runWith_eq_search, Act.reading_bind_of_ok h]
  cases hresult : (job.leaveArtifacts world found files).2.result with
  | error crash =>
    have hconclude : job.conclude world (.ok found) files = _ := Act.bind_of_crash hresult _
    rw [hconclude]
    rfl
  | ok _ =>
    have hconclude : job.conclude world (.ok found) files = _ := Act.bind_of_ok hresult _
    rw [hconclude]
    exact congrArg (fun trace => (_, Run.mk _ (_ ++ trace))) (Trace.append_empty _)

theorem runWith_of_notFound (h : ∀ found, (job.search backends files).result ≠ .ok (.ok found)) :
    job.runWith backends world files = job.withoutArtifacts.runWith backends world files := by
  have hsearch : job.withoutArtifacts.search backends = job.search backends := rfl
  rw [runWith_eq_search, runWith_eq_search, hsearch]
  cases hresult : (job.search backends files).result with
  | error crash => rw [Act.reading_bind_of_crash hresult, Act.reading_bind_of_crash hresult]
  | ok inputs =>
    cases inputs with
    | error fault => rw [Act.reading_bind_of_ok hresult, Act.reading_bind_of_ok hresult]; rfl
    | ok found => exact absurd hresult (h found)

end

section
variable {backends : WatchBackends} {files : FileTree} {job : WatchJob}

theorem search_of_fault {fault : InputFault}
    (h : (job.inputs backends files).result = .ok (.error fault)) :
    job.search backends files =
      ⟨.ok (.error fault), (job.inputs backends files).trace ++
        ⟨[.err (watchTool ++ ": " ++ fault.message)], [], [], []⟩⟩ := by
  rw [search, Run.bind_of_ok h]
  rfl

/-- A watch finds what its check comes to. -/
theorem search_eq_found_iff {found : Findings} :
    (job.search backends files).result = .ok (.ok found) ↔ ∃ watched resolved,
      (job.inputs backends files).result = .ok (.ok (watched, resolved)) ∧
        (Freshness.check resolved backends.latest job.advisory watched).result = .ok found.outcomes ∧
          found.violations = DependencyOutcome.violations found.outcomes := by
  constructor
  · intro h
    obtain ⟨inputs, hinputs, h⟩ := Run.result_bind_eq_ok.mp h
    cases inputs with
    | error fault => cases h
    | ok given =>
      obtain ⟨result, hfound, hresult⟩ := Run.result_bind_eq_ok.mp h
      obtain ⟨outcomes, hcheck, hmade⟩ := Run.result_bind_eq_ok.mp hfound
      cases hresult
      cases hmade
      exact ⟨given.1, given.2, hinputs, hcheck, rfl⟩
  · rintro ⟨watched, resolved, hinputs, hcheck, hviolations⟩
    rw [search, Run.result_bind, hinputs]
    simp [findings, hcheck, ← hviolations]

/-- A watch that has its inputs and comes to a verdict has found something. -/
theorem exists_found_of_runWith {world : World} {watched : List Watched} {resolved : Resolved}
    {decided : Verdict}
    (hinputs : (job.inputs backends files).result = .ok (.ok (watched, resolved)))
    (h : (job.runWith backends world files).2.result = .ok decided) :
    ∃ found, (job.search backends files).result = .ok (.ok found) := by
  rw [runWith_eq_search, Act.result_bind] at h
  obtain ⟨searched, hsearched, _⟩ := bind_eq_ok.mp h
  obtain ⟨inputs, hread, hrest⟩ := Run.result_bind_eq_ok.mp hsearched
  cases hinputs.symm.trans hread
  obtain ⟨found, _, hmade⟩ := Run.result_bind_eq_ok.mp hrest
  cases hmade
  exact ⟨found, hsearched⟩

/-- A watch that comes to a verdict after it has found something comes to the one that follows from
that. -/
theorem eq_verdict_of_found {world : World} {found : Findings}
    (hfound : (job.search backends files).result = .ok (.ok found)) {decided : Verdict}
    (h : (job.runWith backends world files).2.result = .ok decided) : decided = verdict job.advisory found := by
  rw [runWith_of_found hfound] at h
  obtain ⟨_, _, hdecided⟩ := map_eq_ok.mp h
  exact hdecided.symm

/-- A watch finds something once its inputs are there, if no row of digits is too long. -/
theorem exists_search_of_plain {watched : List Watched} {packages : List PackageRecord}
    (hload : (Watchlist.load files job.watchlist).result = .ok (.ok watched))
    (hpackages : (backends.packages files).result = .ok (.ok packages))
    (hplain : ∀ record ∈ packages, record.IsPlain ∧ ∀ t, record.version = .str t → Version.HasShortRuns t)
    (hanswer : ∀ name, ∃ answer, (backends.latest name).result = .ok answer ∧ answer.IsPlain) :
    ∃ found, (job.search backends files).result = .ok (.ok found) := by
  obtain ⟨resolved, hresolved, hcollects⟩ := Resolved.ofPackages_collects fun record h => (hplain record h).1
  have hentries : ∀ dependency ∈ watched, Freshness.IsPlainEntry resolved (dependency, backends.latest) := by
    intro dependency _
    refine ⟨?_, hanswer dependency.name⟩
    intro version hversion
    obtain ⟨record, hmem, t, rfl, h⟩ := (hcollects.mem_iff dependency.name version).mp hversion
    exact ⟨t, rfl, (hplain record hmem).2 t h.2.1⟩
  obtain ⟨outcomes, hcheck, _⟩ := Freshness.checkEach_of_plain (List.forall_mem_map.mpr hentries) job.advisory
  rw [← Freshness.check_eq_checkEach] at hcheck
  exact ⟨⟨outcomes, DependencyOutcome.violations outcomes⟩,
    search_eq_found_iff.mpr ⟨watched, resolved, inputs_of_packages hload hpackages hresolved, hcheck, rfl⟩⟩

end

section
variable {world : World} {files : FileTree} {job : WatchJob} {found : Findings}

theorem leaveSummary_of_none (h : job.summary = none) :
    job.leaveSummary world found = Pure.pure () := by
  rw [leaveSummary, h]

theorem leaveSummary_of_moment {shown : ShownPath} {moment : Moment}
    (hsummary : job.summary = some shown)
    (hmoment : job.moment world = .ok moment) :
    job.leaveSummary world found =
      Artifact.appendSummary shown (Report.summary? job.advisory found.outcomes found.violations moment) := by
  rw [leaveSummary, hsummary]
  dsimp only
  rw [hmoment]
  exact Act.pure_bind moment _

theorem leaveSummary_of_noMoment {shown : ShownPath} {crash : Crash}
    (hsummary : job.summary = some shown)
    (hmoment : job.moment world = .error crash) :
    job.leaveSummary world found files = (files, Run.crash crash) := by
  rw [leaveSummary, hsummary]
  dsimp only
  rw [hmoment]
  rfl

theorem leaveTable_of_none (h : job.tableDirectory = none) :
    job.leaveTable world found = Pure.pure () := by
  rw [leaveTable, h]

theorem leaveTable_of_some {directory : ShownPath} (h : job.tableDirectory = some directory) :
    job.leaveTable world found = Artifact.writeTable world directory (TableRow.table found.outcomes) := by
  rw [leaveTable, h]

theorem leaveArtifacts_files (world : World) (files : FileTree) (job : WatchJob)
    (found : Findings) :
    (job.leaveArtifacts world found files).1 = (job.leaveSummary world found files).1 ∨
      (job.leaveArtifacts world found files).1 =
        (job.leaveTable world found (job.leaveSummary world found files).1).1 := by
  cases hresult : (job.leaveSummary world found files).2.result with
  | error crash => exact .inl (by rw [leaveArtifacts, Act.bind_of_crash hresult])
  | ok _ => exact .inr (by rw [leaveArtifacts, Act.bind_of_ok hresult])

end

end CrateGuard.WatchJob
