import CrateGuard.Proofs.Gate.Shown
import CrateGuard.Proofs.Gate.WatchVerdict

/-! The order of the packages in the graph, and how often each stands there, makes no difference to
a watch, and neither do packages that do not come from the registry. All that reaches the check is
the set of versions of each watched name, and the check sorts it before it chooses among versions
that rank the same. -/

namespace CrateGuard
variable {style : LogStyle}

namespace Freshness

/-- The check sees the versions of a name as a set. -/
private theorem check_eq_of_perm {first second : Resolved}
    (h : ∀ name, (first.versions name).Perm (second.versions name))
    (lookup : Text → Run Lookup) (advisory : Bool) (watched : List Watched) :
    check first lookup advisory watched = check second lookup advisory watched := by
  induction watched with
  | nil => rfl
  | cons dependency rest ih =>
    have hone : checkOne first lookup advisory dependency = checkOne second lookup advisory dependency := by
      rw [checkOne, checkOne, sortedTexts_eq_of_perm (h dependency.name)]
    rw [check, check, hone, ih]

end Freshness

namespace Resolved

private theorem isQuiet_addPackage (hstyle : style ≠ .labelled .debug) (resolved : Resolved)
    (record : PackageRecord) :
    (resolved.addPackage record).IsQuiet style := by
  have hregistry : (Run.ofExcept (isRegistrySource record.source)).IsQuiet style := rfl
  refine hregistry.bind ?_
  intro registry
  cases registry with
  | true =>
    cases record.name.hashable && record.version.hashable with
    | true => exact Run.isQuiet_pure _
    | false => rfl
  | false => exact (Run.isQuiet_log_debug hstyle _ _).bind fun _ => Run.isQuiet_pure _

theorem isQuiet_ofPackages (hstyle : style ≠ .labelled .debug) (packages : List PackageRecord) :
    (ofPackages packages).IsQuiet style :=
  Run.isQuiet_foldlM (isQuiet_addPackage hstyle) packages []

end Resolved

namespace WatchJob

def afterInputs (backends : WatchBackends) (world : World) (job : WatchJob) :
    Except InputFault (List Watched × Resolved) → Act Verdict
  | .error fault => Act.ofRun (fault.report watchTool)
  | .ok (watched, resolved) => do
    let found ← Act.ofRun (job.findings backends watched resolved)
    Act.say (report job.advisory found)
    job.leaveSummary world found
    job.leaveTable world found
    return verdict job.advisory found

theorem runWith_eq (backends : WatchBackends) (world : World) (job : WatchJob) :
    job.runWith backends world =
      (Act.reading fun files => job.inputs backends files) >>= job.afterInputs backends world := rfl

private theorem afterInputs_eq_of_latest {first second : WatchBackends}
    (hlatest : first.latest = second.latest) (world : World)
    (job : WatchJob) : job.afterInputs first world = job.afterInputs second world := by
  have hfindings : job.findings first = job.findings second := by
    funext watched resolved
    rw [findings, findings, hlatest]
  funext inputs
  cases inputs with
  | error fault => rw [afterInputs, afterInputs]
  | ok given => rw [afterInputs, afterInputs, hfindings]

private theorem afterInputs_eq_of_perm {resolved other : Resolved}
    (h : ∀ name, (resolved.versions name).Perm (other.versions name)) (backends : WatchBackends) (world : World)
    (job : WatchJob) (watched : List Watched) :
    job.afterInputs backends world (.ok (watched, resolved)) =
      job.afterInputs backends world (.ok (watched, other)) := by
  have hfindings : job.findings backends watched resolved = job.findings backends watched other := by
    rw [findings, findings, Freshness.check_eq_of_perm h]
  rw [afterInputs, afterInputs, hfindings]

private theorem inputs_eq_of_unloaded {files : FileTree} {job : WatchJob}
    (h : ∀ watched, (Watchlist.load files job.watchlist).result ≠ .ok (.ok watched)) (first second : WatchBackends) :
    job.inputs first files = job.inputs second files := by
  unfold inputs
  cases hload : (Watchlist.load files job.watchlist).result with
  | error crash => rw [Run.bind_of_crash hload, Run.bind_of_crash hload]
  | ok loaded =>
    rw [Run.bind_of_ok hload, Run.bind_of_ok hload]
    cases loaded with
    | error fault => rfl
    | ok watched => exact absurd hload (h watched)

section
variable {first second : WatchBackends} {files : FileTree} {packages others : List PackageRecord}

/-- Graphs with the same versions from the registry lead a watch to the same inputs, as far as the
rest of it can tell. -/
private theorem inputs_alike (hstyle : style ≠ .labelled .debug)
    (hlatest : first.latest = second.latest)
    (hfirst : (first.packages files).result = .ok (.ok packages))
    (hsecond : (second.packages files).result = .ok (.ok others))
    (htrace : (first.packages files).trace.settled style = (second.packages files).trace.settled style)
    (hpackages : ∀ record ∈ packages, record.IsPlain) (hothers : ∀ record ∈ others, record.IsPlain)
    (hsame : ∀ name t, (∃ record ∈ packages, record.Resolves name t) ↔ ∃ record ∈ others, record.Resolves name t)
    (world : World) (job : WatchJob) :
    (job.inputs first files).trace.settled style = (job.inputs second files).trace.settled style ∧
      (job.inputs first files).result.map (job.afterInputs first world) =
        (job.inputs second files).result.map (job.afterInputs second world) := by
  rw [afterInputs_eq_of_latest hlatest]
  by_cases hload : ∃ watched, (Watchlist.load files job.watchlist).result = .ok (.ok watched)
  · obtain ⟨watched, hload⟩ := hload
    obtain ⟨resolved, hresolved, hcollects⟩ := Resolved.ofPackages_collects hpackages
    obtain ⟨other, hother, hcollectsOther⟩ := Resolved.ofPackages_collects hothers
    have hperm := hcollects.versions_perm hcollectsOther hsame
    have hquiet := Resolved.isQuiet_ofPackages hstyle packages
    have hquietOther := Resolved.isQuiet_ofPackages hstyle others
    rw [inputs_eq_of_packages hload hfirst hresolved, inputs_eq_of_packages hload hsecond hother]
    constructor
    · simp only [Trace.settled_append, htrace]
      rw [hquiet, hquietOther]
    · exact congrArg Except.ok (afterInputs_eq_of_perm hperm second world job watched)
  · rw [inputs_eq_of_unloaded (fun watched h => hload ⟨watched, h⟩) first second]
    exact ⟨rfl, rfl⟩

/-- Graphs with the same versions from the registry lead a watch to the same files, verdict, output,
errors and questions, unless records for debugging are shown. How often and in what order packages
stand in a graph makes no difference, nor do those that come from elsewhere. -/
theorem runWith_packages_order (hstyle : style ≠ .labelled .debug)
    (hlatest : first.latest = second.latest)
    (hfirst : (first.packages files).result = .ok (.ok packages))
    (hsecond : (second.packages files).result = .ok (.ok others))
    (htrace : (first.packages files).trace.settled style = (second.packages files).trace.settled style)
    (hpackages : ∀ record ∈ packages, record.IsPlain) (hothers : ∀ record ∈ others, record.IsPlain)
    (hsame : ∀ name t, (∃ record ∈ packages, record.Resolves name t) ↔ ∃ record ∈ others, record.Resolves name t)
    (world : World) (job : WatchJob) :
    LooksSame style (job.runWith first world files) (job.runWith second world files) := by
  obtain ⟨htraces, hnext⟩ := inputs_alike hstyle hlatest hfirst hsecond htrace hpackages hothers hsame world job
  rw [runWith_eq, runWith_eq]
  exact Act.looksSame_bind rfl htraces hnext

end

def tiedPackages : List PackageRecord :=
  [⟨.str "serde", .str "1.0.0+build", .null⟩, ⟨.str "serde", .str "1.0.0", .str "registry+index"⟩]

def shuffledPackages : List PackageRecord :=
  [⟨.str "serde", .str "1.0.0", .null⟩, ⟨.str "serde", .str "9.0.0", .str "git+https"⟩,
    ⟨.str "serde", .str "1.0.0", .str "registry+index"⟩, ⟨.str "serde", .str "1.0.0+build", .null⟩]

private theorem tiedPackages_plain : ∀ record ∈ tiedPackages, record.IsPlain := by
  simp only [tiedPackages, List.forall_mem_cons]
  exact ⟨⟨⟨_, rfl⟩, ⟨_, rfl⟩, .inl rfl⟩, ⟨⟨_, rfl⟩, ⟨_, rfl⟩, .inr ⟨_, rfl⟩⟩, by simp⟩

private theorem shuffledPackages_plain : ∀ record ∈ shuffledPackages, record.IsPlain := by
  simp only [shuffledPackages, List.forall_mem_cons]
  exact ⟨⟨⟨_, rfl⟩, ⟨_, rfl⟩, .inl rfl⟩, ⟨⟨_, rfl⟩, ⟨_, rfl⟩, .inr ⟨_, rfl⟩⟩,
    ⟨⟨_, rfl⟩, ⟨_, rfl⟩, .inr ⟨_, rfl⟩⟩, ⟨⟨_, rfl⟩, ⟨_, rfl⟩, .inl rfl⟩, by simp⟩

private theorem shuffledPackages_resolves (name t : Text) :
    (∃ record ∈ tiedPackages, record.Resolves name t) ↔ ∃ record ∈ shuffledPackages, record.Resolves name t := by
  have hnull (name version : Json) : (PackageRecord.mk name version .null).IsRegistrySourced := .inl rfl
  have hindex (name version : Json) : (PackageRecord.mk name version (.str "registry+index")).IsRegistrySourced :=
    .inr ⟨_, rfl, .inr ⟨"index", rfl⟩⟩
  have hgit (name version : Json) : ¬(PackageRecord.mk name version (.str "git+https")).IsRegistrySourced := by
    rintro (h | ⟨source, h, hempty | ⟨rest, hmark⟩⟩)
    · cases h
    · cases h
      cases hempty
    · cases h
      cases hmark
  simp only [tiedPackages, shuffledPackages, PackageRecord.Resolves, List.exists_mem_cons_iff, hnull, hindex, hgit]
  simp [or_comm]

def graphBackends (packages : List PackageRecord) : WatchBackends :=
  ⟨fun _ => return .ok packages, singleBackends.latest⟩

/-- Versions of one rank are told apart by their texts, not by their places. -/
theorem runWith_packages_order_tied :
    LooksSame .bare (singleWatch.runWith (graphBackends tiedPackages) singleWorld singleFiles)
      (singleWatch.runWith (graphBackends shuffledPackages) singleWorld singleFiles) := by
  have hstyle : LogStyle.bare ≠ .labelled .debug := by decide
  have hgraph (packages : List PackageRecord) :
      ((graphBackends packages).packages singleFiles).result = .ok (.ok packages) := rfl
  have hlatest : (graphBackends tiedPackages).latest = (graphBackends shuffledPackages).latest := rfl
  exact runWith_packages_order hstyle hlatest (hgraph _) (hgraph _) rfl tiedPackages_plain shuffledPackages_plain
    shuffledPackages_resolves singleWorld singleWatch

end WatchJob

end CrateGuard
