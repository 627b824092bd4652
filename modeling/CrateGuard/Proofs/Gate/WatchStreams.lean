import CrateGuard.Proofs.Freshness.NamedVersions
import CrateGuard.Proofs.Gate.WatchArtifacts

/-! The two streams of a watch. All lines of a report are made as one row, which is cut after the
header and as many lines as there are outcomes. So the header and one line for each watched package
go to the output, and after them the pass if nothing is wrong; what is wrong goes to the error
stream, as one block. -/

namespace CrateGuard

private theorem LatestRelease.printsNothing_fetch (registry : Registry) (client : RegistryClient)
    (name : Text) :
    (fetch registry client name).PrintsNothing := by
  unfold fetch
  cases client.request? name with
  | none => exact Run.printsNothing_pure _
  | some request =>
    refine (Run.printsNothing_log _ _ _).bind fun _ => ?_
    refine Run.PrintsNothing.bind ⟨rfl, rfl⟩ fun _ => ?_
    cases ofReply (registry request) with
    | error fault => exact Run.printsNothing_pure _
    | ok release => exact (Run.printsNothing_log _ _ _).bind fun _ => Run.printsNothing_pure _

namespace Freshness
variable {lookup : Text → Run Lookup}

private theorem printsNothing_judge (dependency : Watched) (advisory : Bool) (current : Text)
    (answer : Lookup) :
    (judge dependency advisory current answer).PrintsNothing := by
  cases answer with
  | refused reason => exact (Run.printsNothing_log _ _ _).bind fun _ => Run.printsNothing_pure _
  | broken failure => exact (Run.printsNothing_log _ _ _).bind fun _ => Run.printsNothing_pure _
  | found version =>
    refine (Run.printsNothing_ofExcept _).bind fun read => ?_
    cases read with
    | none => exact (Run.printsNothing_log _ _ _).bind fun _ => Run.printsNothing_pure _
    | some parsed => exact (Run.printsNothing_ofExcept _).bind fun _ => Run.printsNothing_pure _

private theorem printsNothing_checkOne (hlookup : ∀ name, (lookup name).PrintsNothing)
    (resolved : Resolved) (advisory : Bool)
    (dependency : Watched) : (checkOne resolved lookup advisory dependency).PrintsNothing := by
  refine (Run.printsNothing_ofExcept _).bind fun present => ?_
  refine (Run.printsNothing_ofExcept _).bind fun best => ?_
  cases best with
  | none => exact Run.printsNothing_pure _
  | some current =>
    refine Run.PrintsNothing.bind ⟨rfl, rfl⟩ fun _ => ?_
    exact (hlookup dependency.name).bind (printsNothing_judge dependency advisory current)

private theorem printsNothing_check (hlookup : ∀ name, (lookup name).PrintsNothing)
    (resolved : Resolved) (advisory : Bool)
    (watched : List Watched) : (check resolved lookup advisory watched).PrintsNothing := by
  induction watched with
  | nil => exact Run.printsNothing_pure _
  | cons dependency rest ih =>
    refine (printsNothing_checkOne hlookup resolved advisory dependency).bind fun outcome => ?_
    exact ih.bind fun outcomes => Run.printsNothing_pure _

end Freshness

structure WatchBackends.PrintNothing (backends : WatchBackends) : Prop where
  packages : ∀ files, (backends.packages files).PrintsNothing
  latest : ∀ name, (backends.latest name).PrintsNothing

namespace WatchJob

private theorem backends_printNothing (world : World) (job : WatchJob) :
    (job.backends world).PrintNothing where
  packages files := (job.source.isSilent_packages files world.cargo).printsNothing
  latest name :=
    (LatestRelease.printsNothing_fetch world.registry job.client name).bind fun _ => Run.printsNothing_pure _

def headItem (advisory : Bool) : Text :=
  if advisory then "dependency-watch: mode=advisory" else "dependency-watch: mode=strict"

def rowItem (outcome : DependencyOutcome) : Text :=
  Report.rowLine (TableRow.ofOutcome outcome)

def passItem : Text := "dependency-watch: PASS"

def failureHeading (advisory : Bool) : Text :=
  if advisory then "dependency-watch: advisory warnings:" else "dependency-watch: strict check failed"

def nonBlockingItem : Text := "dependency-watch: completed with warnings (non-blocking)"

/-- The items that tell of what is wrong, if anything is: a heading and each violation, and in
advisory mode that they are let pass. -/
def failureItems (advisory : Bool) (violations : List Violation) : List Text :=
  if violations = [] then []
  else failureHeading advisory :: violations.map Violation.item ++ (if advisory then [nonBlockingItem] else [])

/-- What a watch prints once it has found something. Only refusals of artifacts come after the items
that tell of what is wrong. -/
structure Streams (job : WatchJob) (watched : List Watched) (found : Findings) (trace : Trace) : Prop where
  dependencies_eq : found.outcomes.map (·.dependency) = watched
  violations_eq : found.violations = DependencyOutcome.violations found.outcomes
  outItems_eq : trace.outItems = headItem job.advisory :: found.outcomes.map rowItem ++
    (if found.violations = [] then [passItem] else [])
  errItems_eq : ∃ refusals, trace.errItems = failureItems job.advisory found.violations ++ refusals ∧
    ∀ item ∈ refusals, job.IsSummaryRefusal (.err item) ∨ job.IsTableRefusal (.err item)

section
variable {backends : WatchBackends} {world : World} {files : FileTree} {job : WatchJob} {found : Findings}

private theorem headLines_eq (advisory : Bool) (outcomes : List DependencyOutcome) :
    Report.headLines advisory (TableRow.table outcomes) = headItem advisory :: outcomes.map rowItem := by
  rw [Report.headLines, TableRow.table, List.map_map]
  cases advisory <;> rfl

private theorem tailLines_eq (advisory : Bool) (violations : List Violation) :
    Report.tailLines advisory violations =
      if violations = [] then [passItem] else failureItems advisory violations := by
  cases violations with
  | nil => rfl
  | cons first later =>
    rw [if_neg nofun, failureItems, if_neg nofun]
    cases advisory with
    | false => exact (List.append_nil _).symm
    | true =>
      rw [Report.tailLines]
      exact congrArg (_ :: ·) List.concat_eq_append

private theorem report_eq (advisory : Bool) (found : Findings) :
    report advisory found = (headItem advisory :: found.outcomes.map rowItem).map .out ++
      (if found.violations = [] then [Message.out passItem]
        else (failureItems advisory found.violations).map .err) := by
  have hlength : found.outcomes.length + 1 = (headItem advisory :: found.outcomes.map rowItem).length := by
    rw [List.length_cons, List.length_map]
  rw [report, Report.watchLines, headLines_eq, tailLines_eq, hlength, List.take_left, List.drop_left]
  cases found.violations <;> rfl

private theorem failureItems_eq_nil_iff (advisory : Bool) (violations : List Violation) :
    failureItems advisory violations = [] ↔ violations = [] := by
  rw [failureItems]
  split
  next h => exact iff_of_true rfl h
  next h => exact iff_of_false nofun h

private theorem report_prints (advisory : Bool) (found : Findings) :
    (Run.say (report advisory found)).Prints
      (headItem advisory :: found.outcomes.map rowItem ++ (if found.violations = [] then [passItem] else []))
      (failureItems advisory found.violations) := by
  rw [report_eq]
  by_cases h : found.violations = []
  · rw [if_pos h, if_pos h, (failureItems_eq_nil_iff advisory _).mpr h]
    exact (Run.prints_say_out _).say_append (Run.prints_say_out [passItem])
  · rw [if_neg h, if_neg h]
    exact (Run.prints_say_out _).say_append (Run.prints_say_err _)

private theorem printsNothing_inputs (hbackends : backends.PrintNothing) (files : FileTree)
    (job : WatchJob) :
    (job.inputs backends files).PrintsNothing := by
  refine (Settings.isSilent_load _ _ files job.watchlist).printsNothing.bind fun loaded => ?_
  cases loaded with
  | error fault => exact Run.printsNothing_pure _
  | ok watched =>
    refine (hbackends.packages files).bind fun read => ?_
    cases read with
    | error fault => exact Run.printsNothing_pure _
    | ok packages =>
      have hresolved := (Resolved.isQuiet_ofPackages (show LogStyle.bare ≠ _ by nofun) packages).isSilent.printsNothing
      exact hresolved.bind fun _ => Run.printsNothing_pure _

/-- A search prints its report and nothing else. -/
private theorem search_prints (hbackends : backends.PrintNothing)
    (h : (job.search backends files).result = .ok (.ok found)) :
    (job.search backends files).Prints
      (headItem job.advisory :: found.outcomes.map rowItem ++ (if found.violations = [] then [passItem] else []))
      (failureItems job.advisory found.violations) := by
  obtain ⟨inputs, hinputs, h⟩ := Run.result_bind_eq_ok.mp h
  refine (printsNothing_inputs hbackends files job).bind_of_ok hinputs ?_
  cases inputs with
  | error fault => cases h
  | ok given =>
    obtain ⟨result, hfound, hresult⟩ := Run.result_bind_eq_ok.mp h
    cases hresult
    have hcheck := Freshness.printsNothing_check hbackends.latest given.2 job.advisory given.1
    refine (hcheck.bind fun _ => Run.printsNothing_pure _).bind_of_ok hfound ?_
    exact (report_prints job.advisory found).bind fun _ => Run.printsNothing_pure _

private theorem leaveArtifacts_items (world : World) (files : FileTree) (job : WatchJob)
    (found : Findings) :
    (job.leaveArtifacts world found files).2.trace.outItems = [] ∧
      ∀ item ∈ (job.leaveArtifacts world found files).2.trace.errItems,
        job.IsSummaryRefusal (.err item) ∨ job.IsTableRefusal (.err item) := by
  obtain ⟨first, second, _, _, hfirst, hsecond, htrace⟩ := leaveArtifacts_said world files job found
  have hrefusal : ∀ message ∈ first ++ second, job.IsSummaryRefusal message ∨ job.IsTableRefusal message := by
    intro message hmem
    exact (List.mem_append.mp hmem).imp (hfirst message) (hsecond message)
  have herr : ∀ message ∈ first ++ second, ∃ item, message = .err item := by
    intro message hmem
    exact (hrefusal message hmem).elim exists_err_of_summaryRefusal exists_err_of_tableRefusal
  constructor
  · rw [← Trace.outItems_settled .bare, htrace]
    apply List.filterMap_eq_nil_iff.mpr
    intro message hmem
    obtain ⟨item, rfl⟩ := herr message hmem
    rfl
  · intro item hitem
    have hsettled := (Trace.errItems_sublist_settled .bare _).subset hitem
    rw [htrace] at hsettled
    obtain ⟨message, hmem, hmade⟩ := List.mem_filterMap.mp hsettled
    obtain ⟨other, rfl⟩ := herr message hmem
    cases hmade
    exact hrefusal _ hmem

private theorem passItem_notMem (advisory : Bool) (outcomes : List DependencyOutcome) :
    passItem ∉ headItem advisory :: outcomes.map rowItem := by
  have hhead : passItem ≠ headItem advisory := by cases advisory <;> decide
  rw [List.mem_cons, List.mem_map]
  rintro (h | ⟨outcome, _, h⟩)
  · exact hhead h
  · -- a row starts with a space
    cases h

private theorem Streams.passItem_mem_iff {watched : List Watched} {trace : Trace}
    (h : job.Streams watched found trace) :
    passItem ∈ trace.outItems ↔ found.violations = [] := by
  rw [h.outItems_eq, List.mem_append, or_iff_right (passItem_notMem _ _)]
  split
  next hnone => exact iff_of_true (List.mem_singleton_self _) hnone
  next hsome => exact iff_of_false List.not_mem_nil hsome

private theorem streams_of_found {watched : List Watched} {resolved : Resolved}
    (hbackends : backends.PrintNothing)
    (hinputs : (job.inputs backends files).result = .ok (.ok (watched, resolved)))
    (hfound : (job.search backends files).result = .ok (.ok found)) (world : World) :
    job.Streams watched found (job.runWith backends world files).2.trace := by
  obtain ⟨_, _, hagain, hcheck, hviolations⟩ := search_eq_found_iff.mp hfound
  cases hinputs.symm.trans hagain
  obtain ⟨hout, herr⟩ := search_prints hbackends hfound
  obtain ⟨hleft, hrefusals⟩ := leaveArtifacts_items world files job found
  rw [runWith_of_found hfound]
  refine ⟨(Freshness.check_isRead hcheck).1, hviolations, ?_, _, ?_, hrefusals⟩
  · rw [Trace.outItems_append, hout, hleft, List.append_nil]
  · rw [Trace.errItems_append, herr]

/-- Once its inputs are there, what a watch prints on the output is its mode, one row for each
watched package in the order of the watch list, and a pass if and only if nothing is wrong. What it
prints on the error stream is the block that tells of what is wrong, which is there if and only if
something is, and refusals of artifacts after it. In strict mode it tells of a pass if and only if
it exits with 0; in advisory mode it exits with 0 either way. -/
theorem runWith_streams :
    (∀ (world : World) (job : WatchJob), (job.backends world).PrintNothing) ∧
    (∀ advisory violations, failureItems advisory violations = [] ↔ violations = []) ∧
    ∀ (backends : WatchBackends) (world : World) (files : FileTree) (job : WatchJob) (watched : List Watched)
        (resolved : Resolved) (decided : Verdict), backends.PrintNothing →
      (job.inputs backends files).result = .ok (.ok (watched, resolved)) →
      (job.runWith backends world files).2.result = .ok decided →
      ∃ found, (Freshness.check resolved backends.latest job.advisory watched).result = .ok found.outcomes ∧
        job.Streams watched found (job.runWith backends world files).2.trace ∧
        (job.advisory = false →
          (passItem ∈ (job.runWith backends world files).2.trace.outItems ↔ decided.exitCode = 0)) ∧
        (job.advisory = true → decided.exitCode = 0) := by
  refine ⟨backends_printNothing, failureItems_eq_nil_iff, ?_⟩
  intro backends world files job watched resolved decided hbackends hinputs hrun
  obtain ⟨found, hfound⟩ := exists_found_of_runWith hinputs hrun
  have hstreams := streams_of_found hbackends hinputs hfound world
  obtain ⟨_, _, hagain, hcheck, _⟩ := search_eq_found_iff.mp hfound
  cases hinputs.symm.trans hagain
  refine ⟨found, hcheck, hstreams, ?_, ?_⟩
  · intro hstrict
    rw [hstreams.passItem_mem_iff, eq_verdict_of_found hfound hrun, hstrict, verdict_exitCode]
  · intro hadvisory
    rw [eq_verdict_of_found hfound hrun, hadvisory, verdict_advisory]
    rfl

end

def warningWatch : FileTree × Run Verdict :=
  (singleWatch.inMode true).runWith outdatedBackends singleWorld singleFiles

/-- Its row is on the output and its violation on the error stream, and it exits with 0. -/
theorem runWith_streams_warning :
    warningWatch.2.result.map Verdict.exitCode = .ok 0 ∧
      warningWatch.2.trace.outItems = ["dependency-watch: mode=advisory",
        "  - serde        group=unknown    current=1.0.10       latest=2.0.0        outcome=outdated-warn"] ∧
      warningWatch.2.trace.errItems = ["dependency-watch: advisory warnings:",
        "  - serde is outdated (1.0.10 -> 2.0.0); fail_on_update is enabled",
        "dependency-watch: completed with warnings (non-blocking)"] := by
  have hresolved : (Resolved.ofPackages singlePackages).result =
      .ok [(.str "serde", [.str "1.0.9", .str "1.0.10"])] := by
    cbv
  have hinputs : ((singleWatch.inMode true).inputs outdatedBackends singleFiles).result = .ok (.ok (_, _)) :=
    inputs_of_packages singleWatch_load rfl hresolved
  have hcheck : (Freshness.check [(.str "serde", [.str "1.0.9", .str "1.0.10"])] outdatedBackends.latest true
      [⟨"serde", "unknown", true⟩]).result = .ok [outdatedOutcome.downgraded] := by
    cbv
  have hrun : warningWatch.2.result = .ok _ := runWith_of_inputs rfl rfl hinputs hcheck
  obtain ⟨_, _, hstreams⟩ := runWith_streams
  obtain ⟨⟨outcomes, violations⟩, hfound, ⟨_, hviolations, hout, refusals, herr, hrefusals⟩, _, hpass⟩ :=
    hstreams _ singleWorld _ _ _ _ _ ⟨fun _ => Run.printsNothing_pure _, fun _ => Run.printsNothing_pure _⟩ hinputs hrun
  cases hfound.symm.trans hcheck
  cases hviolations
  -- without artifacts none is refused
  have hnone : refusals = [] := by
    apply List.eq_nil_iff_forall_not_mem.mpr
    intro item hitem
    rcases hrefusals item hitem with ⟨_, _, hsummary, _⟩ | ⟨_, _, htable, _⟩
    · cases hsummary
    · cases htable
  rw [hnone, List.append_nil] at herr
  refine ⟨?_, hout.trans ?_, herr.trans ?_⟩
  · rw [hrun]
    exact congrArg Except.ok (hpass rfl)
  · cbv
  · cbv

end WatchJob

end CrateGuard
