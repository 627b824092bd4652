import CrateGuard.Proofs.Gate.Search

/-! Inputs at fault. Loading settings and reading evidence show nothing and ask the registry
nothing, so a watch whose inputs are at fault says so in one line and leaves no other mark. -/

namespace CrateGuard

namespace Source

private theorem isSilent_decode (limit : Nat) (origin s : Text) :
    (decode limit origin s).IsSilent :=
  Run.IsQuiet.isSilent (Run.IsQuiet.bind rfl fun _ => rfl)

private theorem isSilent_valueOfFile (files : FileTree) (kind : EvidenceKind) (path : Option Path) :
    (valueOfFile files kind path).IsSilent := by
  cases path with
  | none => exact Run.IsQuiet.isSilent rfl
  | some path =>
    have htext : (textOfFile files kind path).IsSilent := by
      unfold textOfFile
      split
      · exact Run.IsQuiet.isSilent rfl
      · split
        · exact Run.IsQuiet.isSilent rfl
        · exact Run.IsQuiet.isSilent (Run.IsQuiet.bind rfl fun _ => rfl)
    refine htext.bind ?_
    intro read
    cases read with
    | error fault => exact Run.IsQuiet.isSilent rfl
    | ok s => exact isSilent_decode _ path.text s

private theorem isSilent_valueOfCommand (cargo : Cargo) (root : Path) (words : List Text)
    (timeout : Json)
    (kind : EvidenceKind) : (valueOfCommand cargo root words timeout kind).IsSilent := by
  have hrun : (CommandReply.run cargo root words timeout kind.wantedAnyway).IsSilent := by
    cases cargo with
    | none => exact Run.IsQuiet.isSilent rfl
    | some reply => exact ⟨[⟨words, root, timeout⟩], rfl⟩
  refine hrun.bind ?_
  intro output
  cases output with
  | error fault => exact Run.IsQuiet.isSilent rfl
  | ok s => exact isSilent_decode _ kind.origin s

private theorem isSilent_value (source : Source) (files : FileTree) (cargo : Cargo)
    (kind : EvidenceKind) :
    (source.value files cargo kind).IsSilent := by
  cases source with
  | cargo root program timeout => exact isSilent_valueOfCommand cargo root _ timeout kind
  | files advisories graph => exact isSilent_valueOfFile files kind _

theorem isSilent_packages (source : Source) (files : FileTree) (cargo : Cargo) :
    (source.packages files cargo).IsSilent :=
  (source.isSilent_value files cargo .graph).bind fun _ => Run.IsQuiet.isSilent rfl

theorem isSilent_advisoryReport (source : Source) (files : FileTree) (cargo : Cargo) :
    (source.advisoryReport files cargo).IsSilent :=
  (source.isSilent_value files cargo .advisories).bind fun _ => Run.IsQuiet.isSilent rfl

end Source

private theorem Settings.isSilent_readFile (files : FileTree) (path : Path) :
    (readFile files path).IsSilent := by
  refine (Run.isSilent_ofExcept _).bind ?_
  intro bytes
  cases bytes with
  | none => exact Run.IsQuiet.isSilent rfl
  | some bytes => exact Run.IsQuiet.isSilent (.bind rfl fun _ => .bind rfl fun _ => .bind rfl fun _ => rfl)

theorem Settings.isSilent_load {α : Type} (ofJson : Json → Except SettingsFault α)
    (amount : α → String)
    (files : FileTree) (place : ShownPath) : (load ofJson amount files place).IsSilent := by
  refine (isSilent_readFile files place.path).bind ?_
  intro read
  cases read with
  | error fault => exact Run.IsQuiet.isSilent rfl
  | ok value =>
    dsimp only
    cases ofJson value with
    | error fault => exact Run.IsQuiet.isSilent rfl
    | ok settings => exact Run.IsQuiet.isSilent rfl

namespace WatchJob

/-- A watch that fails at once: with one line on the error stream and nothing else. -/
structure FailsAtOnce (files : FileTree) (fault : InputFault) (ended : FileTree × Run Verdict) : Prop where
  files_eq : ended.1 = files
  result_eq : ended.2.result = .ok .fail
  outText_eq : ended.2.trace.outText = []
  errText_eq : ended.2.trace.errText .bare = textOfLines [watchTool ++ ": " ++ fault.message]
  requests_eq : ended.2.trace.requests = []
  lookups_eq : ended.2.trace.lookups = []

section
variable {backends : WatchBackends} {files : FileTree} {job : WatchJob}

private theorem failsAtOnce_of_inputs {fault : InputFault}
    (h : (job.inputs backends files).result = .ok (.error fault))
    (hsilent : (job.inputs backends files).IsSilent) (world : World) :
    FailsAtOnce files fault (job.runWith backends world files) := by
  obtain ⟨commands, htrace⟩ := hsilent
  have hsearch := search_of_fault h
  have hnone (found : Findings) : (job.search backends files).result ≠ .ok (.ok found) := by
    rw [hsearch]
    nofun
  rw [runWith_of_notFound hnone, runWith_withoutArtifacts, hsearch]
  have hrequests := congrArg Trace.requests htrace
  have hlookups := congrArg Trace.lookups htrace
  refine ⟨rfl, rfl, ?_, ?_, ?_, ?_⟩
  · rw [Run.mapResult, Trace.outText_append, ← Trace.outText_settled, htrace]
    rfl
  · rw [Run.mapResult, Trace.errText_append, ← Trace.errText_settled, htrace]
    rfl
  · exact (List.append_nil _).trans hrequests
  · exact (List.append_nil _).trans hlookups

/-- A watch list that cannot be loaded fails a watch at once. -/
theorem failsAtOnce_of_settings {fault : SettingsFault}
    (h : (Watchlist.load files job.watchlist).result = .ok (.error fault)) (backends : WatchBackends) (world : World) :
    FailsAtOnce files (.settings job.watchlist fault) (job.runWith backends world files) := by
  refine failsAtOnce_of_inputs (inputs_of_settingsFault h) ?_ world
  have hsilent : (Watchlist.load files job.watchlist).IsSilent := Settings.isSilent_load _ _ files job.watchlist
  obtain ⟨commands, htrace⟩ := hsilent
  rw [inputs, Run.bind_of_ok h]
  refine ⟨commands, ?_⟩
  rw [Trace.settled_append, htrace]
  exact Trace.append_empty _

/-- So does a graph that cannot be read. -/
theorem failsAtOnce_of_evidence {watched : List Watched} {fault : SourceFault}
    (hload : (Watchlist.load files job.watchlist).result = .ok (.ok watched))
    (h : (backends.packages files).result = .ok (.error fault)) (hsilent : (backends.packages files).IsSilent)
    (world : World) : FailsAtOnce files (.evidence fault) (job.runWith backends world files) := by
  refine failsAtOnce_of_inputs (inputs_of_sourceFault hload h) ?_ world
  refine (Settings.isSilent_load _ _ files job.watchlist).bind ?_
  intro loaded
  cases loaded with
  | error fault => exact Run.IsQuiet.isSilent rfl
  | ok watched =>
    refine hsilent.bind ?_
    intro read
    cases read with
    | error fault => exact Run.IsQuiet.isSilent rfl
    | ok packages =>
      refine (Resolved.isQuiet_ofPackages (by simp) packages).isSilent.bind ?_
      intro resolved
      exact Run.IsQuiet.isSilent rfl

end

end WatchJob

end CrateGuard
