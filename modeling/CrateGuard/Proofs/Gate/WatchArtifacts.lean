import CrateGuard.Proofs.Gate.Artifacts
import CrateGuard.Proofs.Gate.InputFaults
import CrateGuard.Proofs.Gate.WatchModes
import CrateGuard.Proofs.Report.Encodable

/-! What artifacts mean to a watch. They come after all that it prints and asks for, and add a line
for each that is refused; they leave alone all files but their own. The verdict stands unless an
artifact crashes: a summary or a table that has no UTF-8 form, or a directory that lies too deep or
whose path holds a malformed authority. -/

namespace CrateGuard.WatchJob

def IsSummaryRefusal (job : WatchJob) (message : Message) : Prop :=
  ∃ place fault, job.summary = some place ∧ message = Artifact.summaryRefused place fault

def IsTableRefusal (job : WatchJob) (message : Message) : Prop :=
  ∃ directory fault, job.tableDirectory = some directory ∧ message = Artifact.tableRefused directory fault

def block? (world : World) (job : WatchJob) (found : Findings) : Option ByteArray :=
  match job.moment world with
  | .error _ => none
  | .ok moment =>
    (Artifact.summaryBytes (Report.summary? job.advisory found.outcomes found.violations moment)).toOption

section
variable {world : World} {files : FileTree} {job : WatchJob} {found : Findings} {place : Place}

theorem block?_eq_some_iff {block : ByteArray} :
    job.block? world found = some block ↔ ∃ moment text, job.moment world = .ok moment ∧
      Report.summary? job.advisory found.outcomes found.violations moment = some text ∧ text.bytes? = some block := by
  rw [block?]
  cases job.moment world with
  | error crash => simp
  | ok moment =>
    simp only [Except.ok.injEq, exists_and_left, exists_eq_left']
    cases Report.summary? job.advisory found.outcomes found.violations moment with
    | none => simp [Artifact.summaryBytes, Except.toOption]
    | some text => cases hbytes : text.bytes? <;> simp [Artifact.summaryBytes, hbytes, Except.toOption]

private theorem leaveSummary_isAside (world : World) (files : FileTree) (job : WatchJob)
    (found : Findings) :
    (job.leaveSummary world found files).2.IsAside job.IsSummaryRefusal := by
  cases hsummary : job.summary with
  | none =>
    rw [leaveSummary_of_none hsummary]
    exact Run.isAside_of_isQuiet rfl
  | some shown =>
    cases hmoment : job.moment world with
    | error crash =>
      rw [leaveSummary_of_noMoment hsummary hmoment]
      exact Run.isAside_of_isQuiet rfl
    | ok moment =>
      rw [leaveSummary_of_moment hsummary hmoment]
      refine (Artifact.appendSummary_isAside files shown _).imp ?_
      rintro message ⟨fault, rfl⟩
      exact ⟨shown, fault, hsummary, rfl⟩

private theorem leaveTable_isAside (world : World) (files : FileTree) (job : WatchJob)
    (found : Findings) :
    (job.leaveTable world found files).2.IsAside job.IsTableRefusal := by
  cases hdirectory : job.tableDirectory with
  | none =>
    rw [leaveTable_of_none hdirectory]
    exact Run.isAside_of_isQuiet rfl
  | some directory =>
    rw [leaveTable_of_some hdirectory]
    refine (Artifact.writeTable_isAside world files directory _).imp ?_
    rintro message ⟨fault, rfl⟩
    exact ⟨directory, fault, hdirectory, rfl⟩

/-- All that artifacts add to what is shown. -/
theorem leaveArtifacts_said (world : World) (files : FileTree) (job : WatchJob) (found : Findings) :
    ∃ first second : List Message, first.length ≤ 1 ∧ second.length ≤ 1 ∧
      (∀ message ∈ first, job.IsSummaryRefusal message) ∧ (∀ message ∈ second, job.IsTableRefusal message) ∧
      (job.leaveArtifacts world found files).2.trace.settled .bare = ⟨first ++ second, [], [], []⟩ := by
  obtain ⟨first, hfirst, hsummary, htrace⟩ := leaveSummary_isAside world files job found
  obtain ⟨second, hsecond, htable, hlater⟩ :=
    leaveTable_isAside world (job.leaveSummary world found files).1 job found
  cases hresult : (job.leaveSummary world found files).2.result with
  | error crash =>
    refine ⟨first, [], hfirst, Nat.zero_le _, hsummary, by simp, ?_⟩
    rw [leaveArtifacts, Act.bind_of_crash hresult, List.append_nil]
    exact htrace
  | ok _ =>
    refine ⟨first, second, hfirst, hsecond, hsummary, htable, ?_⟩
    rw [leaveArtifacts, Act.bind_of_ok hresult, Trace.settled_append, htrace, hlater]
    rfl

def SummarySettles (world : World) (files : FileTree) (job : WatchJob) (found : Findings) : Prop :=
  ∀ place, job.summary = some place → ∃ moment, job.moment world = .ok moment ∧ place.path.defect? = none ∧
    (Artifact.opens files place.path = true → ∃ text bytes,
      Report.summary? job.advisory found.outcomes found.violations moment = some text ∧ text.bytes? = some bytes)

def TableSettles (world : World) (files : FileTree) (job : WatchJob) (found : Findings) : Prop :=
  ∀ directory, job.tableDirectory = some directory →
    directory.path.defect? = none ∧ files.isTooDeep directory.path = false ∧
      ∀ made, files.ensureDirectories directory.path = (made, none) →
        ∃ saved, Artifact.save world made (Artifact.tableTarget directory) (TableRow.table found.outcomes) = .ok saved ∧
          ∀ written, saved = .ok written → Csv.isEncodable (TableRow.table found.outcomes) = true

private theorem leaveSummary_result_iff :
    (job.leaveSummary world found files).2.result = .ok () ↔ job.SummarySettles world files found := by
  cases hsummary : job.summary with
  | none => simp [leaveSummary_of_none hsummary, SummarySettles, hsummary]
  | some shown =>
    cases hmoment : job.moment world with
    | error crash =>
      rw [leaveSummary_of_noMoment hsummary hmoment]
      simp [SummarySettles, hsummary, hmoment, Run.crash]
    | ok moment =>
      rw [leaveSummary_of_moment hsummary hmoment, Artifact.appendSummary_result_iff]
      simp [SummarySettles, hsummary, hmoment, Artifact.exists_summaryBytes_iff]

private theorem leaveTable_result_iff :
    (job.leaveTable world found files).2.result = .ok () ↔ job.TableSettles world files found := by
  cases hdirectory : job.tableDirectory with
  | none => simp [leaveTable_of_none hdirectory, TableSettles, hdirectory]
  | some directory =>
    rw [leaveTable_of_some hdirectory, Artifact.writeTable_result_iff]
    simp [TableSettles, hdirectory]

private theorem leaveArtifacts_result_iff :
    (job.leaveArtifacts world found files).2.result = .ok () ↔
      job.SummarySettles world files found ∧
        job.TableSettles world (job.leaveSummary world found files).1 found := by
  rw [leaveArtifacts, Act.result_bind, bind_eq_ok, ← leaveSummary_result_iff, ← leaveTable_result_iff]
  constructor
  · rintro ⟨⟨⟩, hsummary, htable⟩
    exact ⟨hsummary, htable⟩
  · rintro ⟨hsummary, htable⟩
    exact ⟨(), hsummary, htable⟩

/-- Artifacts that settle whatever is in the way of them, as long as what is found is whole: the
moment has a timestamp, their paths can be given to the file system, and the table's does not lie
too deep nor look like an address. -/
structure HasPlainArtifacts (world : World) (files : FileTree) (job : WatchJob) : Prop where
  moment : ∃ moment, job.moment world = .ok moment ∧ moment.timestamp?.isSome = true
  summary : ∀ place, job.summary = some place → place.path.defect? = none
  table : ∀ directory, job.tableDirectory = some directory →
    directory.path.defect? = none ∧ files.isTooDeep directory.path = false ∧
      Address.isMalformed (Artifact.tableTarget directory) = false ∧
      Address.isAddress (Artifact.tableTarget directory) = false

private theorem HasPlainArtifacts.summarySettles (h : job.HasPlainArtifacts world files)
    (hwhole : ∀ outcome ∈ found.outcomes, outcome.IsWhole)
    (hviolations : found.violations = DependencyOutcome.violations found.outcomes) :
    job.SummarySettles world files found := by
  intro place hplace
  obtain ⟨moment, hmoment, htimestamp⟩ := h.moment
  refine ⟨moment, hmoment, h.summary place hplace, fun _ => ?_⟩
  rw [hviolations]
  exact Report.exists_summary_bytes job.advisory hwhole htimestamp

private theorem HasPlainArtifacts.tableSettles (h : job.HasPlainArtifacts world files)
    (hwhole : ∀ outcome ∈ found.outcomes, outcome.IsWhole) : job.TableSettles world files found := by
  intro directory hdirectory
  obtain ⟨hdefect, hdeep, hmalformed, haddress⟩ := h.table directory hdirectory
  exact ⟨hdefect, hdeep, fun made _ =>
    ⟨_, Artifact.save_of_not_address hmalformed haddress, fun _ _ => Csv.isEncodable_table hwhole⟩⟩

/-- The summary makes no directory, so artifacts are as plain after it. -/
theorem HasPlainArtifacts.leaveSummary (h : job.HasPlainArtifacts world files) (found : Findings) :
    job.HasPlainArtifacts world (job.leaveSummary world found files).1 := by
  refine ⟨h.moment, h.summary, ?_⟩
  intro directory hdirectory
  obtain ⟨hdefect, hdeep, haddress⟩ := h.table directory hdirectory
  refine ⟨hdefect, ?_, haddress⟩
  cases hsummary : job.summary with
  | none =>
    rw [leaveSummary_of_none hsummary]
    exact hdeep
  | some shown =>
    obtain ⟨moment, hmoment, _⟩ := h.moment
    rw [leaveSummary_of_moment hsummary hmoment]
    exact Artifact.isTooDeep_appendSummary shown _ hdeep

def IsTablePlace (world : World) (job : WatchJob) (place : Place) : Prop :=
  ∃ directory, job.tableDirectory = some directory ∧ place = Artifact.tablePlace world directory

private theorem entryAt_leaveTable_of_some {entry : Entry} (hplace : ¬job.IsTablePlace world place)
    (h : files.entryAt place = some entry) : (job.leaveTable world found files).1.entryAt place = some entry := by
  cases hdirectory : job.tableDirectory with
  | none =>
    rw [leaveTable_of_none hdirectory]
    exact h
  | some directory =>
    rw [leaveTable_of_some hdirectory]
    exact Artifact.entryAt_writeTable_of_some (fun heq => hplace ⟨directory, hdirectory, heq⟩) h

private theorem entryAt_leaveSummary_of_file {bytes : ByteArray} (world : World) (job : WatchJob)
    (found : Findings)
    (h : files.entryAt place = some (.file bytes)) :
    ∃ more, (job.leaveSummary world found files).1.entryAt place = some (.file (bytes ++ more)) ∧
      (more = ByteArray.empty ∨
        ∃ shown, job.summary = some shown ∧ place = shown.path.place ∧ job.block? world found = some more) := by
  cases hsummary : job.summary with
  | none =>
    rw [leaveSummary_of_none hsummary]
    exact ⟨ByteArray.empty, by rw [ByteArray.append_empty]; exact h, .inl rfl⟩
  | some shown =>
    cases hmoment : job.moment world with
    | error crash =>
      rw [leaveSummary_of_noMoment hsummary hmoment]
      exact ⟨ByteArray.empty, by rw [ByteArray.append_empty]; exact h, .inl rfl⟩
    | ok moment =>
      rw [leaveSummary_of_moment hsummary hmoment]
      obtain ⟨more, hentry, hmore⟩ := Artifact.entryAt_appendSummary_of_file shown
        (Report.summary? job.advisory found.outcomes found.violations moment) h
      refine ⟨more, hentry, hmore.imp_right ?_⟩
      rintro ⟨hplace, hbytes⟩
      refine ⟨shown, rfl, hplace, ?_⟩
      simp [block?, hmoment, hbytes, Except.toOption]

/-- Artifacts leave every file as it was, but for the table, and the summary that grows at its
end. -/
private theorem entryAt_leaveArtifacts_of_file {bytes : ByteArray} (found : Findings)
    (hplace : ¬job.IsTablePlace world place)
    (h : files.entryAt place = some (.file bytes)) :
    ∃ more, (job.leaveArtifacts world found files).1.entryAt place = some (.file (bytes ++ more)) ∧
      (more = ByteArray.empty ∨
        ∃ shown, job.summary = some shown ∧ place = shown.path.place ∧ job.block? world found = some more) := by
  obtain ⟨more, hentry, hmore⟩ := entryAt_leaveSummary_of_file world job found h
  refine ⟨more, ?_, hmore⟩
  rcases leaveArtifacts_files world files job found with hfiles | hfiles
  · rw [hfiles, hentry]
  · rw [hfiles, entryAt_leaveTable_of_some hplace hentry]

end

/-- A watch with artifacts beside the same watch without them: the same is printed to the output and
asked for, and the lines on the error stream start with the same. -/
structure GoesBeyond (job : WatchJob) (full plain : FileTree × Run Verdict) : Prop where
  outText_eq : full.2.trace.outText = plain.2.trace.outText
  requests_eq : full.2.trace.requests = plain.2.trace.requests
  lookups_eq : full.2.trace.lookups = plain.2.trace.lookups
  commands_eq : full.2.trace.commands = plain.2.trace.commands
  errText_eq : ∃ first second : List Message, first.length ≤ 1 ∧ second.length ≤ 1 ∧
    (∀ message ∈ first, job.IsSummaryRefusal message) ∧ (∀ message ∈ second, job.IsTableRefusal message) ∧
    full.2.trace.errText .bare =
      plain.2.trace.errText .bare ++ textOfLines ((first ++ second).filterMap (Message.errLine? .bare))

section
variable {backends : WatchBackends} {world : World} {files : FileTree} {job : WatchJob}

theorem exists_err_of_summaryRefusal {message : Message} (h : job.IsSummaryRefusal message) :
    ∃ line, message = .err line := by
  obtain ⟨place, fault, _, rfl⟩ := h
  exact ⟨_, rfl⟩

theorem exists_err_of_tableRefusal {message : Message} (h : job.IsTableRefusal message) :
    ∃ line, message = .err line := by
  obtain ⟨directory, fault, _, rfl⟩ := h
  exact ⟨_, rfl⟩

private theorem goesBeyond_of_settled {full plain : FileTree × Run Verdict}
    {first second : List Message}
    (hfirst : first.length ≤ 1) (hsecond : second.length ≤ 1)
    (hsummary : ∀ message ∈ first, job.IsSummaryRefusal message)
    (htable : ∀ message ∈ second, job.IsTableRefusal message)
    (h : full.2.trace.settled .bare = plain.2.trace.settled .bare ++ ⟨first ++ second, [], [], []⟩) :
    job.GoesBeyond full plain := by
  -- refusals go to the error stream
  have hlines : (first ++ second).filterMap Message.outLine? = [] := by
    rw [List.filterMap_eq_nil_iff]
    intro message hmem
    rcases List.mem_append.mp hmem with hmem | hmem
    · obtain ⟨line, rfl⟩ := exists_err_of_summaryRefusal (hsummary message hmem)
      rfl
    · obtain ⟨line, rfl⟩ := exists_err_of_tableRefusal (htable message hmem)
      rfl
  have hout : (⟨first ++ second, [], [], []⟩ : Trace).outText = [] := by
    rw [Trace.outText, hlines]
    rfl
  have hrequests := congrArg Trace.requests h
  have hlookups := congrArg Trace.lookups h
  have hcommands := congrArg Trace.commands h
  refine ⟨?_, ?_, ?_, ?_, first, second, hfirst, hsecond, hsummary, htable, ?_⟩
  · rw [← Trace.outText_settled, h, Trace.outText_append, Trace.outText_settled, hout, List.append_nil]
  · exact hrequests.trans (List.append_nil _)
  · exact hlookups.trans (List.append_nil _)
  · exact hcommands.trans (List.append_nil _)
  · rw [← Trace.errText_settled, h, Trace.errText_append, Trace.errText_settled]
    rfl

private theorem runWith_goesBeyond (backends : WatchBackends) (world : World) (files : FileTree)
    (job : WatchJob) :
    job.GoesBeyond (job.runWith backends world files) (job.withoutArtifacts.runWith backends world files) := by
  by_cases h : ∃ found, (job.search backends files).result = .ok (.ok found)
  · obtain ⟨found, hfound⟩ := h
    obtain ⟨first, second, hfirst, hsecond, hsummary, htable, htrace⟩ := leaveArtifacts_said world files job found
    refine goesBeyond_of_settled hfirst hsecond hsummary htable ?_
    rw [runWith_of_found hfound, runWith_withoutArtifacts, Trace.settled_append, htrace]
    rfl
  · rw [runWith_of_notFound fun found hfound => h ⟨found, hfound⟩]
    exact ⟨rfl, rfl, rfl, rfl, [], [], by simp, by simp, by simp, by simp, (List.append_nil _).symm⟩

/-- The verdict is that of the watch without artifacts if and only if the artifacts settle. -/
private theorem runWith_result_iff :
    (job.runWith backends world files).2.result = (job.withoutArtifacts.runWith backends world files).2.result ↔
      ∀ found, (job.search backends files).result = .ok (.ok found) →
        job.SummarySettles world files found ∧ job.TableSettles world (job.leaveSummary world found files).1 found := by
  by_cases h : ∃ found, (job.search backends files).result = .ok (.ok found)
  · obtain ⟨found, hfound⟩ := h
    rw [runWith_of_found hfound, runWith_withoutArtifacts, Run.mapResult, hfound]
    simp only [Except.ok.injEq, forall_eq', ← leaveArtifacts_result_iff]
    cases (job.leaveArtifacts world found files).2.result with
    | error crash => simp [Except.map]
    | ok _ => simp [Except.map, verdictOf]
  · rw [runWith_of_notFound fun found hfound => h ⟨found, hfound⟩]
    exact iff_of_true rfl fun found hfound => absurd ⟨found, hfound⟩ h

private theorem entryAt_runWith_of_file {place : Place} {bytes : ByteArray}
    (hplace : ¬job.IsTablePlace world place)
    (h : files.entryAt place = some (.file bytes)) :
    ∃ more, (job.runWith backends world files).1.entryAt place = some (.file (bytes ++ more)) ∧
      (more = ByteArray.empty ∨ ∃ shown found, job.summary = some shown ∧ place = shown.path.place ∧
        (job.search backends files).result = .ok (.ok found) ∧ job.block? world found = some more) := by
  by_cases hany : ∃ found, (job.search backends files).result = .ok (.ok found)
  · obtain ⟨found, hfound⟩ := hany
    rw [runWith_of_found hfound]
    obtain ⟨more, hentry, hmore⟩ := entryAt_leaveArtifacts_of_file found hplace h
    refine ⟨more, hentry, hmore.imp_right ?_⟩
    rintro ⟨shown, hsummary, hshown, hblock⟩
    exact ⟨shown, found, hsummary, hshown, hfound, hblock⟩
  · rw [runWith_of_notFound fun found hfound => hany ⟨found, hfound⟩, runWith_withoutArtifacts]
    exact ⟨ByteArray.empty, by rw [ByteArray.append_empty]; exact h, .inl rfl⟩

private theorem runWith_result_of_plain (h : job.HasPlainArtifacts world files)
    (hwhole : ∀ found, (job.search backends files).result = .ok (.ok found) →
      ∀ outcome ∈ found.outcomes, outcome.IsWhole) :
    (job.runWith backends world files).2.result = (job.withoutArtifacts.runWith backends world files).2.result := by
  rw [runWith_result_iff]
  intro found hfound
  obtain ⟨watched, resolved, _, _, hviolations⟩ := search_eq_found_iff.mp hfound
  exact ⟨h.summarySettles (hwhole found hfound) hviolations, (h.leaveSummary found).tableSettles (hwhole found hfound)⟩

/-- Artifacts do not get in the way of a watch as long as they settle. Whatever the files are and
wherever the artifacts are to go, a watch prints the same to the output and asks for the same as
without them, and adds at most one line for each artifact at the end of the error stream; it leaves
every file as it was, but for the table, which stands below its directory under its own name unless
a tilde is expanded, and the summary, which grows at its end. Its verdict is the same if and only if
both artifacts settle, as plain ones do. When its inputs are at fault, it fails with one line on the
error stream and leaves all files alone. -/
theorem runWith_artifacts (backends : WatchBackends) (world : World) (files : FileTree)
    (job : WatchJob) :
    (job.withoutArtifacts.runWith backends world files).1 = files ∧
    job.GoesBeyond (job.runWith backends world files) (job.withoutArtifacts.runWith backends world files) ∧
    ((job.runWith backends world files).2.result = (job.withoutArtifacts.runWith backends world files).2.result ↔
      ∀ found, (job.search backends files).result = .ok (.ok found) →
        job.SummarySettles world files found ∧
          job.TableSettles world (job.leaveSummary world found files).1 found) ∧
    (job.HasPlainArtifacts world files →
      (∀ found, (job.search backends files).result = .ok (.ok found) → ∀ outcome ∈ found.outcomes, outcome.IsWhole) →
      (job.runWith backends world files).2.result = (job.withoutArtifacts.runWith backends world files).2.result) ∧
    (∀ place bytes, files.entryAt place = some (.file bytes) → ¬job.IsTablePlace world place →
      ∃ more, (job.runWith backends world files).1.entryAt place = some (.file (bytes ++ more)) ∧
        (more = ByteArray.empty ∨ ∃ shown found, job.summary = some shown ∧ place = shown.path.place ∧
          (job.search backends files).result = .ok (.ok found) ∧ job.block? world found = some more)) ∧
    (∀ directory s, directory.path = Path.ofText s → (Artifact.tableTarget directory).head? ≠ some (.char '~') →
      Artifact.tablePlace world directory = (directory.path.below [Artifact.tableName]).place) ∧
    (∀ fault, (Watchlist.load files job.watchlist).result = .ok (.error fault) →
      FailsAtOnce files (.settings job.watchlist fault) (job.runWith backends world files)) ∧
    (∀ watched fault, (Watchlist.load files job.watchlist).result = .ok (.ok watched) →
      (backends.packages files).result = .ok (.error fault) → (backends.packages files).IsSilent →
      FailsAtOnce files (.evidence fault) (job.runWith backends world files)) ∧
    ∀ (source : Source) (cargo : Cargo), (source.packages files cargo).IsSilent := by
  refine ⟨?_, runWith_goesBeyond backends world files job, runWith_result_iff,
    runWith_result_of_plain, ?_, ?_, ?_, ?_, ?_⟩
  · rw [runWith_withoutArtifacts]
  · intro place bytes hentry hplace
    exact entryAt_runWith_of_file hplace hentry
  · intro directory s hpath htilde
    exact Artifact.tablePlace_eq hpath htilde
  · intro fault hload
    exact failsAtOnce_of_settings hload backends world
  · intro watched fault hload hpackages hsilent
    exact failsAtOnce_of_evidence hload hpackages hsilent world
  · intro source cargo
    exact Source.isSilent_packages source files cargo

end

def blockedWatch : WatchJob :=
  { singleWatch with
    summary := some (.asWritten "."), tableDirectory := some (.asWritten "watch.json"), now := some default }

/-- Both are refused, and the watch passes as it does without them. -/
theorem runWith_artifacts_blocked :
    (blockedWatch.runWith singleBackends singleWorld singleFiles).2.result =
      (singleWatch.runWith singleBackends singleWorld singleFiles).2.result := by
  obtain ⟨_, _, hverdict, _⟩ := runWith_artifacts singleBackends singleWorld singleFiles blockedWatch
  have hblocked : blockedWatch.withoutArtifacts.runWith singleBackends singleWorld singleFiles =
      singleWatch.runWith singleBackends singleWorld singleFiles := rfl
  have hrefused : singleFiles.append (Path.ofText ".") ByteArray.empty = .error .isDirectory := by rfl
  have hmake : singleFiles.ensureDirectories (Path.ofText "watch.json") =
      (singleFiles, some ⟨.alreadyThere, Path.ofText "watch.json"⟩) := by
    cbv
  rw [← hblocked, hverdict]
  intro found _
  have hleft : (blockedWatch.leaveSummary singleWorld found singleFiles).1 = singleFiles := by
    have hdefect : (Path.ofText ".").defect? = none := rfl
    rw [leaveSummary_of_moment rfl rfl]
    simp [Artifact.appendSummary, ShownPath.asWritten, hdefect, hrefused]
  constructor
  · rintro shown ⟨⟩
    refine ⟨default, rfl, rfl, ?_⟩
    intro hopens
    simp [Artifact.opens, ShownPath.asWritten, hrefused, Except.isOk, Except.toBool] at hopens
  · rw [hleft]
    rintro directory ⟨⟩
    refine ⟨rfl, ?_, ?_⟩
    · cbv
    · intro made hmade
      cases hmake.symm.trans hmade

def bracketWatch : WatchJob :=
  { singleWatch with advisory := true, tableDirectory := some (.asWritten "\t/\t/[x") }

/-- It crashes, although it would pass without the table. -/
theorem bracketWatch_crashes :
    (bracketWatch.withoutArtifacts.runWith singleBackends singleWorld singleFiles).2.result = .ok .pass ∧
      (bracketWatch.runWith singleBackends singleWorld singleFiles).2.result = .error .malformedAuthority := by
  have hanswer (name : Text) :
      ∃ answer, (singleBackends.latest name).result = .ok answer ∧ answer.IsPlain :=
    ⟨.found (.str "1.0.10+build"), rfl, "1.0.10+build", rfl, Version.hasShortRuns_of_length (by decide)⟩
  obtain ⟨found, hfound⟩ : ∃ found, (bracketWatch.search singleBackends singleFiles).result = .ok (.ok found) :=
    exists_search_of_plain singleWatch_load rfl singlePackages_plain hanswer
  constructor
  · rw [runWith_withoutArtifacts, Run.mapResult, hfound]
    exact congrArg Except.ok (verdict_advisory found)
  · have hdefect : (Path.ofText "\t/\t/[x").defect? = none := by rfl
    have hdeep : singleFiles.isTooDeep (Path.ofText "\t/\t/[x") = false := by cbv
    have hdone : (singleFiles.ensureDirectories (Path.ofText "\t/\t/[x")).2 = none := by cbv
    obtain ⟨made, hmake⟩ : ∃ made, singleFiles.ensureDirectories (Path.ofText "\t/\t/[x") = (made, none) :=
      ⟨_, Prod.ext rfl hdone⟩
    -- without its tabs the path starts with two slashes and an authority with an open bracket
    have hmalformed : Address.isMalformed (Artifact.tableTarget (.asWritten "\t/\t/[x")) = true := by cbv
    have htable : (bracketWatch.leaveTable singleWorld found singleFiles).2.result = .error .malformedAuthority := by
      rw [Artifact.tableTarget, ShownPath.asWritten] at hmalformed
      rw [leaveTable_of_some rfl]
      simp [Artifact.writeTable, Artifact.makeAndWriteTable, Artifact.save, ShownPath.asWritten, hdefect, hdeep, hmake,
        hmalformed, Run.crash]
    rw [runWith_of_found hfound, leaveArtifacts, leaveSummary_of_none rfl, Act.pure_bind, htable]
    rfl

end CrateGuard.WatchJob
