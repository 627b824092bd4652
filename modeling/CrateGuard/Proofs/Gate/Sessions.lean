import CrateGuard.Gate.Audit
import CrateGuard.Proofs.Gate.WatchArtifacts
import CrateGuard.Proofs.Source.Legible

/-! Sessions: gates that are run one after the other on the same files and leave their summaries at
one path. What stands there only grows, by one block for each watch that finds something, as long as
its file can be opened and the block has a UTF-8 form. Audits and watches whose inputs are at fault
add nothing. -/

namespace CrateGuard

inductive GateCall
  | watch (backends : WatchBackends) (world : World) (job : WatchJob)
  | audit (world : World) (job : AuditJob)

namespace GateCall

def perform : GateCall → FileTree → FileTree
  | .watch backends world job, files => (job.runWith backends world files).1
  | .audit world job, files => (Act.reading (fun files => job.run world files) files).1

def performAll (calls : List GateCall) (files : FileTree) : FileTree :=
  calls.foldl (fun files call => call.perform files) files

def block? (files : FileTree) : GateCall → Option ByteArray
  | .watch backends world job =>
    match job.summary, (job.search backends files).result with
    | some shown, .ok (.ok found) =>
      if Artifact.opens files shown.path then job.block? world found else none
    | _, _ => none
  | .audit _ _ => none

/-- The blocks that calls append, in their order, each to the files that those before it leave. -/
def blocks : List GateCall → FileTree → List ByteArray
  | [], _ => []
  | call :: rest, files => (call.block? files).toList ++ blocks rest (call.perform files)

/-- A call leaves its summary at a path, and its table and the directories on the way to it
elsewhere. -/
def KeepsTo (path : Path) : GateCall → Prop
  | .watch _ world job =>
    (∃ shown, job.summary = some ⟨shown, path⟩) ∧ ∀ directory, job.tableDirectory = some directory →
      path.place ≠ Artifact.tablePlace world directory ∧ ∀ levels, (directory.path.above levels).place ≠ path.place
  | .audit _ _ => True

section
variable {backends : WatchBackends} {world : World} {files : FileTree} {job : WatchJob} {found : Findings}

private theorem bytesAt_leaveSummary {shown : ShownPath} (world : World) (files : FileTree)
    (found : Findings)
    (hsummary : job.summary = some shown) :
    (job.leaveSummary world found files).1.bytesAt shown.path.place =
      files.bytesAt shown.path.place ++
        (if Artifact.opens files shown.path then job.block? world found else none).getD ByteArray.empty := by
  cases hmoment : job.moment world with
  | error crash =>
    rw [WatchJob.leaveSummary_of_noMoment hsummary hmoment]
    simp [WatchJob.block?, hmoment]
  | ok moment =>
    rw [WatchJob.leaveSummary_of_moment hsummary hmoment, Artifact.bytesAt_appendSummary, Artifact.appended?]
    simp [WatchJob.block?, hmoment]

private theorem bytesAt_leaveTable {place : Place}
    (h : ∀ directory, job.tableDirectory = some directory →
      place ≠ Artifact.tablePlace world directory ∧ ∀ levels, (directory.path.above levels).place ≠ place) :
    (job.leaveTable world found files).1.bytesAt place = files.bytesAt place := by
  cases hdirectory : job.tableDirectory with
  | none =>
    rw [WatchJob.leaveTable_of_none hdirectory]
    rfl
  | some directory =>
    obtain ⟨hplace, hway⟩ := h directory hdirectory
    rw [WatchJob.leaveTable_of_some hdirectory, FileTree.bytesAt, Artifact.entryAt_writeTable_of_ne hplace hway,
      FileTree.bytesAt]

end

private theorem bytesAt_perform {path : Path} {call : GateCall} (h : call.KeepsTo path)
    (files : FileTree) :
    (call.perform files).bytesAt path.place =
      files.bytesAt path.place ++ (call.block? files).getD ByteArray.empty := by
  cases call with
  | audit world job => exact ByteArray.append_empty.symm
  | watch backends world job =>
    obtain ⟨⟨shown, hsummary⟩, htable⟩ := h
    rw [perform, block?, hsummary]
    by_cases hany : ∃ found, (job.search backends files).result = .ok (.ok found)
    · obtain ⟨found, hfound⟩ := hany
      have hleft := bytesAt_leaveSummary world files found hsummary
      rw [WatchJob.runWith_of_found hfound, hfound]
      -- the table follows the summary unless that crashes, and never stands at its path
      rcases WatchJob.leaveArtifacts_files world files job found with hfiles | hfiles
      · rw [hfiles, hleft]
      · rw [hfiles, bytesAt_leaveTable htable, hleft]
    · have hnone (found : Findings) : (job.search backends files).result ≠ .ok (.ok found) := fun h => hany ⟨found, h⟩
      rw [WatchJob.runWith_of_notFound hnone, WatchJob.runWith_withoutArtifacts]
      split
      · rename_i found _ hfound
        exact absurd hfound (hnone found)
      · exact ByteArray.append_empty.symm

section
variable {path : Path} {backends : WatchBackends} {world : World} {files : FileTree} {job : WatchJob} {shown : Text}

/-- The blocks of watches: one for each watch whose inputs are there and whose check comes to an
end, if its file can be opened and the summary of what it found has a UTF-8 form. -/
private theorem block?_watch_eq_some_iff {block : ByteArray}
    (hsummary : job.summary = some ⟨shown, path⟩) :
    (watch backends world job).block? files = some block ↔
      Artifact.opens files path = true ∧ ∃ watched resolved outcomes moment text,
        (job.inputs backends files).result = .ok (.ok (watched, resolved)) ∧
          (Freshness.check resolved backends.latest job.advisory watched).result = .ok outcomes ∧
          job.moment world = .ok moment ∧
          Report.summary? job.advisory outcomes (DependencyOutcome.violations outcomes) moment = some text ∧
          text.bytes? = some block := by
  have hfound : (watch backends world job).block? files = some block ↔ Artifact.opens files path = true ∧
      ∃ found, (job.search backends files).result = .ok (.ok found) ∧ job.block? world found = some block := by
    rw [block?, hsummary]
    split
    · rename_i shown found hshown hsearch
      cases hshown
      cases Artifact.opens files path <;> simp [hsearch]
    · rename_i hnone
      refine iff_of_false nofun ?_
      rintro ⟨_, found, hsearch, _⟩
      exact hnone _ found rfl hsearch
  rw [hfound]
  refine and_congr_right fun _ => ?_
  constructor
  · rintro ⟨found, hsearch, h⟩
    obtain ⟨watched, resolved, hinputs, hcheck, hviolations⟩ := WatchJob.search_eq_found_iff.mp hsearch
    obtain ⟨moment, text, hmoment, hsummary, hbytes⟩ := WatchJob.block?_eq_some_iff.mp h
    exact ⟨watched, resolved, found.outcomes, moment, text, hinputs, hcheck, hmoment, hviolations ▸ hsummary, hbytes⟩
  · rintro ⟨watched, resolved, outcomes, moment, text, hinputs, hcheck, hmoment, hsummary, hbytes⟩
    exact ⟨⟨outcomes, DependencyOutcome.violations outcomes⟩,
      WatchJob.search_eq_found_iff.mpr ⟨watched, resolved, hinputs, hcheck, rfl⟩,
      WatchJob.block?_eq_some_iff.mpr ⟨moment, text, hmoment, hsummary, hbytes⟩⟩

private theorem exists_block_of_whole {watched : List Watched} {resolved : Resolved}
    {outcomes : List DependencyOutcome}
    {moment : Moment} (hsummary : job.summary = some ⟨shown, path⟩) (hopens : Artifact.opens files path = true)
    (hinputs : (job.inputs backends files).result = .ok (.ok (watched, resolved)))
    (hcheck : (Freshness.check resolved backends.latest job.advisory watched).result = .ok outcomes)
    (hmoment : job.moment world = .ok moment) (htimestamp : moment.timestamp?.isSome = true)
    (hwhole : ∀ outcome ∈ outcomes, outcome.IsWhole) :
    ∃ block, (watch backends world job).block? files = some block := by
  obtain ⟨text, bytes, htext, hbytes⟩ :=
    Report.exists_summary_bytes job.advisory hwhole htimestamp
  exact ⟨bytes, (block?_watch_eq_some_iff hsummary).mpr
    ⟨hopens, watched, resolved, outcomes, moment, text, hinputs, hcheck, hmoment, htext, hbytes⟩⟩

end

private theorem performAll_appends {path : Path} {calls : List GateCall}
    (h : ∀ call ∈ calls, call.KeepsTo path)
    (files : FileTree) :
    (performAll calls files).bytesAt path.place = (blocks calls files).foldl (· ++ ·) (files.bytesAt path.place) := by
  -- the rest of the session starts from what the first call leaves, so the files vary in the
  -- induction
  induction calls generalizing files with
  | nil => rfl
  | cons call rest ih =>
    obtain ⟨hcall, hrest⟩ := List.forall_mem_cons.mp h
    have hlater : (performAll rest (call.perform files)).bytesAt path.place =
        (blocks rest (call.perform files)).foldl (· ++ ·) ((call.perform files).bytesAt path.place) :=
      ih hrest (call.perform files)
    change (performAll rest (call.perform files)).bytesAt path.place = _
    rw [hlater, bytesAt_perform hcall, blocks, List.foldl_append]
    cases call.block? files with
    | none => simp
    | some block => rfl

/-- A session of audits and watches that all leave their summaries at one path, and nothing else
there, appends to what stands at the path the blocks of its calls, one after the other. A watch has
a block if its inputs are there, its check comes to an end, the file can be opened and the summary
of what it found has a UTF-8 form, as it has when what is found is whole; an audit has none. -/
theorem session_appends {path : Path} {calls : List GateCall}
    (h : ∀ call ∈ calls, call.KeepsTo path) :
    (∀ files, (performAll calls files).bytesAt path.place =
      (blocks calls files).foldl (· ++ ·) (files.bytesAt path.place)) ∧
    (∀ files backends world job shown block, job.summary = some ⟨shown, path⟩ →
      ((watch backends world job).block? files = some block ↔
        Artifact.opens files path = true ∧ ∃ watched resolved outcomes moment text,
          (job.inputs backends files).result = .ok (.ok (watched, resolved)) ∧
            (Freshness.check resolved backends.latest job.advisory watched).result = .ok outcomes ∧
            job.moment world = .ok moment ∧
            Report.summary? job.advisory outcomes (DependencyOutcome.violations outcomes) moment = some text ∧
            text.bytes? = some block)) ∧
    (∀ files backends world job shown watched resolved outcomes moment, job.summary = some ⟨shown, path⟩ →
      Artifact.opens files path = true → (job.inputs backends files).result = .ok (.ok (watched, resolved)) →
      (Freshness.check resolved backends.latest job.advisory watched).result = .ok outcomes →
      job.moment world = .ok moment → moment.timestamp?.isSome = true → (∀ outcome ∈ outcomes, outcome.IsWhole) →
      ∃ block, (watch backends world job).block? files = some block) ∧
    ∀ files world job, (audit world job).block? files = none := by
  refine ⟨performAll_appends h, ?_, ?_, fun _ _ _ => rfl⟩
  · intro files backends world job shown block hsummary
    exact block?_watch_eq_some_iff hsummary
  · intro files backends world job shown watched resolved outcomes moment hsummary
    exact exists_block_of_whole hsummary

section

def absentOutcome (group : Text) : DependencyOutcome :=
  ⟨⟨"serde", group, true⟩, .missing, none, none, none⟩

private theorem absentOutcome_isWhole {group : Text} (h : group.IsWhole) :
    (absentOutcome group).IsWhole := by
  refine ⟨Text.isWhole_ofString _, h, ?_, ?_, ?_⟩ <;> rintro t ⟨⟩

private theorem check_absent (lookup : Text → Run Lookup) (advisory : Bool) (group : Text) :
    (Freshness.check [] lookup advisory [⟨"serde", group, true⟩]).result = .ok [absentOutcome group] := by
  have hsorted : Freshness.sortedTexts [] = .ok [] := by simp [Freshness.sortedTexts, Version.textsOf]
  have hbest : Version.highest [] = .ok none := rfl
  simp [Freshness.check, Freshness.checkOne, Resolved.versions, hsorted, hbest, Freshness.orCrash,
    Freshness.missingOutcome, absentOutcome]

def absentSummary? (group : Text) : Option Text :=
  Report.summary? false [absentOutcome group] (DependencyOutcome.violations [absentOutcome group]) default

set_option maxRecDepth 8000 in
private theorem absentSummary_unencodable : (absentSummary? [.half 0]).bind Text.bytes? = none := by
  cbv

private theorem default_timestamp : (default : Moment).timestamp?.isSome = true := by
  cbv

def summaryWatch : WatchJob :=
  { WatchJob.singleWatch with summary := some (.asWritten "s.md"), now := some default }

def summaryCall : GateCall :=
  .watch (WatchJob.graphBackends []) WatchJob.singleWorld summaryWatch

private theorem summaryCall_keepsTo : summaryCall.KeepsTo (Path.ofText "s.md") :=
  ⟨⟨"s.md", rfl⟩, by rintro directory ⟨⟩⟩

def auditCall : GateCall :=
  .audit WatchJob.singleWorld ⟨.asWritten "policy.json", .files none none, none⟩

/-- After the audit, the watch appends its block to a file that is not there yet. -/
theorem session_appends_once :
    ∃ block, summaryCall.block? WatchJob.singleFiles = some block ∧
      (performAll [auditCall, summaryCall] WatchJob.singleFiles).bytesAt (Path.ofText "s.md").place =
        ByteArray.empty ++ block := by
  have hkeeps : ∀ call ∈ [auditCall, summaryCall], call.KeepsTo (Path.ofText "s.md") :=
    List.forall_mem_cons.mpr ⟨trivial, List.forall_mem_singleton.mpr summaryCall_keepsTo⟩
  obtain ⟨hsession, _, hwatch, _⟩ := session_appends hkeeps
  have hopens : Artifact.opens WatchJob.singleFiles (Path.ofText "s.md") = true := by cbv
  have hinputs : (summaryWatch.inputs (WatchJob.graphBackends []) WatchJob.singleFiles).result =
      .ok (.ok ([⟨"serde", "unknown", true⟩], [])) :=
    WatchJob.inputs_of_packages WatchJob.singleWatch_load rfl rfl
  have hwhole : ∀ outcome ∈ [absentOutcome "unknown"], outcome.IsWhole :=
    List.forall_mem_singleton.mpr (absentOutcome_isWhole (Text.isWhole_ofString _))
  obtain ⟨block, hblock⟩ := hwatch WatchJob.singleFiles _ WatchJob.singleWorld _ "s.md" _ _ _ default rfl hopens hinputs
    (check_absent _ _ _) rfl default_timestamp hwhole
  have hblocks : blocks [auditCall, summaryCall] WatchJob.singleFiles = [block] := by
    change (summaryCall.block? WatchJob.singleFiles).toList ++ [] = [block]
    rw [summaryCall, hblock]
    rfl
  have hempty : WatchJob.singleFiles.bytesAt (Path.ofText "s.md").place = ByteArray.empty := by cbv
  refine ⟨block, hblock, ?_⟩
  rw [hsession, hblocks, hempty]
  rfl

/-- A watch list whose group is half a surrogate pair, which an escape writes. -/
def halfList : String :=
  "\x7b\"dependencies\": [\x7b\"name\": \"serde\", \"group\": \"\\ud800\", \"fail_on_update\": true\x7d]\x7d"

def halfFiles : FileTree :=
  ⟨[(⟨false, 0, ["watch.json".toByteArray.toList]⟩, .file halfList.toByteArray)]⟩

private theorem halfFiles_load :
    (Watchlist.load halfFiles WatchJob.singleWatch.watchlist).result = .ok (.ok [⟨"serde", [.half 0], true⟩]) := by
  have hread (bytes : ByteArray) :
      FileTree.read ⟨[(⟨false, 0, ["watch.json".toByteArray.toList]⟩, .file bytes)]⟩
        WatchJob.singleWatch.watchlist.path = .ok bytes := by
    cbv
  have hvalue : Json.decode Json.nestingLimit (Text.ofString halfList).unifyNewlines = .ok (.ok (.obj [("dependencies",
      .arr [.obj [("name", .str "serde"), ("group", .str [.half 0]), ("fail_on_update", .bool true)]])])) := by
    cbv
  exact Settings.result_load_of_value (Settings.readFile_eq_ok rfl (hread _) hvalue)

/-- A watch may append nothing, although its inputs are there and its file can be opened. -/
theorem summaryCall_appends_nothing :
    (summaryWatch.inputs (WatchJob.graphBackends []) halfFiles).result =
        .ok (.ok ([⟨"serde", [.half 0], true⟩], [])) ∧
      Artifact.opens halfFiles (Path.ofText "s.md") = true ∧ (default : Moment).timestamp?.isSome = true ∧
      summaryCall.KeepsTo (Path.ofText "s.md") ∧
      (performAll [summaryCall] halfFiles).bytesAt (Path.ofText "s.md").place =
        halfFiles.bytesAt (Path.ofText "s.md").place := by
  have hinputs : (summaryWatch.inputs (WatchJob.graphBackends []) halfFiles).result =
      .ok (.ok ([⟨"serde", [.half 0], true⟩], [])) :=
    WatchJob.inputs_of_packages halfFiles_load rfl rfl
  have hopens : Artifact.opens halfFiles (Path.ofText "s.md") = true := by cbv
  have hnone : summaryCall.block? halfFiles = none := by
    -- a block would be the UTF-8 form of a summary that shows the half
    rw [Option.eq_none_iff_forall_ne_some]
    intro block hblock
    obtain ⟨_, watched, resolved, outcomes, moment, text, hgiven, hcheck, hmoment, hsummary, hbytes⟩ :=
      (block?_watch_eq_some_iff rfl).mp hblock
    cases hinputs.symm.trans hgiven
    cases (check_absent _ _ _).symm.trans hcheck
    cases hmoment
    have hunencodable : (absentSummary? [.half 0]).bind Text.bytes? = none := absentSummary_unencodable
    rw [absentSummary?, Option.bind_eq_none_iff] at hunencodable
    cases (hunencodable text hsummary).symm.trans hbytes
  refine ⟨hinputs, hopens, default_timestamp, summaryCall_keepsTo, ?_⟩
  change (summaryCall.perform halfFiles).bytesAt _ = _
  rw [bytesAt_perform summaryCall_keepsTo, hnone]
  exact ByteArray.append_empty

end

end GateCall

end CrateGuard
