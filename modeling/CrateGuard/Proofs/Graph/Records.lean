import CrateGuard.Proofs.Graph.Resolution

/-! Which graphs are resolved, and to what. A package of an accepted graph has something for a name
and something for a version, but neither needs to be a text, and its source may be anything.
Resolving stops at the first package that it cannot put in its place. What comes of it without a
stop is a map of texts to sets of texts if and only if every package that counts has texts. -/

namespace CrateGuard

theorem Json.same_str_right_iff {s : Text} {value : Json} : value.same (.str s) = true ↔
    value = .str s := by
  cases value with
  | str t => simp [same, sameScalar]
  | _ => simp [same, sameScalar, whole?]

namespace PackageRecord

/-- An element that is read as a package: an object with a name and a version, both filled. -/
def IsComplete (raw : Json) : Prop :=
  (raw.member "name").filled = true ∧ (raw.member "version").filled = true

def ofRaw (raw : Json) : PackageRecord :=
  ⟨raw.member "name", raw.member "version", raw.member "source"⟩

private theorem read_eq_ok_iff (index : Nat) (raw : Json) (record : PackageRecord) :
    read index raw = .ok record ↔ IsComplete raw ∧ record = ofRaw raw := by
  unfold IsComplete
  cases raw with
  | obj fields =>
    rw [← Bool.and_eq_true]
    simp only [read, Json.member, ofRaw]
    split_ifs with hfilled
    · simp [hfilled, eq_comm]
    · simp [hfilled]
  | _ => simp [read, Json.member, Json.filled]

private theorem ofGraph_eq_ok_iff {graph : Json} {records : List PackageRecord} :
    ofGraph graph = .ok records ↔
      ∃ packages, graph.member "packages" = .arr packages ∧ (∀ raw ∈ packages, IsComplete raw) ∧
        packages.map ofRaw = records := by
  cases graph with
  | obj fields =>
    simp only [ofGraph, Json.member]
    split
    · rename_i packages hpackages
      simp [hpackages, Json.readEach_eq_ok_iff read_eq_ok_iff, eq_comm]
    · rename_i hother
      constructor
      · intro h
        cases h
      · rintro ⟨packages, hpackages, _⟩
        exact absurd hpackages (hother packages)
  | _ => simp [ofGraph, Json.member]

/-- A package that counts: its source is unfilled or names a registry. -/
def HasReleases (record : PackageRecord) : Prop :=
  record.source.filled = false ∨ ∃ source, record.source = .str source ∧ Text.ofString Resolved.registryMark <+: source

/-- What a package stops the resolving with: a source of another kind, or a list or an object for
its name or its version, if it counts. -/
inductive Obstacle (record : PackageRecord) : Crash → Prop
  | source (hfilled : record.source.filled = true) (hother : ∀ source, record.source ≠ .str source) :
    Obstacle record .sourceNotText
  | member (hreleases : record.HasReleases)
      (hstray : record.name.hashable = false ∨ record.version.hashable = false) : Obstacle record .unhashable

/-- A package whose source is unfilled or a text, with texts for name and version if it counts. -/
def IsResolvable (record : PackageRecord) : Prop :=
  (record.source.filled = false ∨ ∃ source, record.source = .str source) ∧
    (record.HasReleases → (∃ name, record.name = .str name) ∧ ∃ version, record.version = .str version)

section
variable {record : PackageRecord}

private theorem HasReleases.source_plain (h : record.HasReleases) :
    record.source.filled = false ∨ ∃ source, record.source = .str source :=
  h.imp id fun ⟨source, hsource, _⟩ => ⟨source, hsource⟩

private theorem HasReleases.not_stray (h : record.HasReleases)
    (hfilled : record.source.filled = true) :
    ¬∀ source, record.source ≠ .str source := by
  intro hstray
  rcases h.source_plain with hunfilled | ⟨source, hsource⟩
  · simp [hunfilled] at hfilled
  · exact hstray source hsource

theorem Obstacle.eq {crash other : Crash} (h : record.Obstacle crash)
    (hother : record.Obstacle other) :
    crash = other := by
  cases h with
  | source hfilled hstray =>
    cases hother with
    | source => rfl
    | member hreleases => exact absurd hstray (hreleases.not_stray hfilled)
  | member hreleases =>
    cases hother with
    | source hfilled hstray => exact absurd hstray (hreleases.not_stray hfilled)
    | member => rfl

private theorem IsResolvable.not_obstacle (h : record.IsResolvable) (crash : Crash) :
    ¬record.Obstacle crash := by
  rintro (⟨hfilled, hstray⟩ | ⟨hreleases, hstray⟩)
  · rcases h.1 with hunfilled | ⟨source, hsource⟩
    · simp [hunfilled] at hfilled
    · exact hstray source hsource
  · obtain ⟨⟨name, hname⟩, version, hversion⟩ := h.2 hreleases
    simp [hname, hversion] at hstray

end

end PackageRecord

namespace Resolved

def IsOfTexts (resolved : Resolved) : Prop :=
  ∀ known ∈ resolved, (∃ name, known.1 = .str name) ∧ ∀ version ∈ known.2, ∃ t, version = .str t

private theorem addVersion_ne_nil (versions : List Json) (version : Json) :
    addVersion versions version ≠ [] := by
  unfold addVersion
  split_ifs with hany
  · rintro rfl
    cases hany
  · simp

private theorem addVersion_texts {versions : List Json} {version : Json} :
    (∀ other ∈ addVersion versions version, ∃ t, other = .str t) ↔
      (∀ other ∈ versions, ∃ t, other = .str t) ∧ ∃ t, version = .str t := by
  unfold addVersion
  split_ifs with hany
  · -- A version that is left out is a text, since the member it is the same as is one.
    obtain ⟨member, hmem, hsame⟩ := List.any_eq_true.mp hany
    constructor
    · intro h
      obtain ⟨t, rfl⟩ := h member hmem
      exact ⟨h, t, Json.same_str_right_iff.mp hsame⟩
    · exact fun h => h.1
  · simp only [List.forall_mem_append, List.forall_mem_singleton]

theorem add_ne_nil {resolved : Resolved} (h : ∀ known ∈ resolved, known.2 ≠ [])
    (name version : Json) :
    ∀ known ∈ add name version resolved, known.2 ≠ [] := by
  induction resolved with
  | nil => simp [add]
  | cons known rest ih =>
    obtain ⟨hknown, hrest⟩ := List.forall_mem_cons.mp h
    rw [add]
    split_ifs
    · exact List.forall_mem_cons.mpr ⟨addVersion_ne_nil known.2 version, hrest⟩
    · exact List.forall_mem_cons.mpr ⟨hknown, ih hrest⟩

/-- What is put among texts spoils them unless it is a text itself, and nothing put later mends
them. -/
theorem isOfTexts_add {resolved : Resolved} {name version : Json} :
    IsOfTexts (add name version resolved) ↔
      IsOfTexts resolved ∧ (∃ s, name = .str s) ∧ ∃ t, version = .str t := by
  unfold IsOfTexts
  induction resolved with
  | nil => simp [add]
  | cons known rest ih =>
    rw [add, List.forall_mem_cons]
    split_ifs with hsame
    · rw [List.forall_mem_cons, addVersion_texts]
      constructor
      · rintro ⟨⟨⟨k, hk⟩, hversions, hversion⟩, hrest⟩
        rw [hk, Json.same_str_iff] at hsame
        exact ⟨⟨⟨⟨k, hk⟩, hversions⟩, hrest⟩, ⟨k, hsame⟩, hversion⟩
      · rintro ⟨⟨⟨hkey, hversions⟩, hrest⟩, _, hversion⟩
        exact ⟨⟨hkey, hversions, hversion⟩, hrest⟩
    · rw [List.forall_mem_cons, ih, ← and_assoc]

/-- All that resolving one more package can do. -/
theorem addPackage_cases (resolved : Resolved) (record : PackageRecord) :
    (∃ crash, record.Obstacle crash ∧ (resolved.addPackage record).result = .error crash) ∨
      (¬record.HasReleases ∧ (∃ source, record.source = .str source) ∧
        (resolved.addPackage record).result = .ok resolved) ∨
      record.HasReleases ∧ record.name.hashable = true ∧ record.version.hashable = true ∧
        (resolved.addPackage record).result = .ok (add record.name record.version resolved) := by
  have hcounted (hreleases : record.HasReleases) (hsource : isRegistrySource record.source = .ok true) :
      (∃ crash, record.Obstacle crash ∧ (resolved.addPackage record).result = .error crash) ∨
        record.name.hashable = true ∧ record.version.hashable = true ∧
          (resolved.addPackage record).result = .ok (add record.name record.version resolved) := by
    cases hname : record.name.hashable with
    | false => exact .inl ⟨_, .member hreleases (.inl hname), by simp [addPackage, hsource, hname, Run.crash]⟩
    | true =>
      cases hversion : record.version.hashable with
      | false => exact .inl ⟨_, .member hreleases (.inr hversion), by simp [addPackage, hsource, hversion, Run.crash]⟩
      | true => exact .inr ⟨rfl, rfl, by simp [addPackage, hsource, hname, hversion]⟩
  cases hfilled : record.source.filled with
  | false =>
    have hreleases : record.HasReleases := .inl hfilled
    exact (hcounted hreleases (by simp [isRegistrySource, hfilled])).imp id fun h => .inr ⟨hreleases, h⟩
  | true =>
    by_cases hplain : ∃ source, record.source = .str source
    · obtain ⟨source, hsource⟩ := hplain
      have hanswer : isRegistrySource record.source = .ok ((Text.ofString registryMark).isPrefixOf source) := by
        rw [hsource] at hfilled ⊢
        simp [isRegistrySource, hfilled]
      cases hmark : (Text.ofString registryMark).isPrefixOf source with
      | true =>
        have hreleases : record.HasReleases := .inr ⟨source, hsource, List.isPrefixOf_iff_prefix.mp hmark⟩
        rw [hmark] at hanswer
        exact (hcounted hreleases hanswer).imp id fun h => .inr ⟨hreleases, h⟩
      | false =>
        refine .inr (.inl ⟨?_, ⟨source, hsource⟩, by simp [addPackage, hanswer, hmark]⟩)
        rintro (hunfilled | ⟨other, hother, hbegins⟩)
        · simp [hunfilled] at hfilled
        · rw [hsource] at hother
          cases hother
          rw [List.isPrefixOf_iff_prefix.mpr hbegins] at hmark
          cases hmark
    · have hstray (source : Text) : record.source ≠ .str source := fun h => hplain ⟨source, h⟩
      refine .inl ⟨_, .source hfilled hstray, ?_⟩
      have hanswer : isRegistrySource record.source = .error .sourceNotText := by
        unfold isRegistrySource
        rw [hfilled]
        cases hsource : record.source with
        | str source => exact absurd hsource (hstray source)
        | _ => rfl
      simp [addPackage, hanswer]

private theorem addPackage_eq_error_iff {resolved : Resolved} {record : PackageRecord}
    {crash : Crash} :
    (resolved.addPackage record).result = .error crash ↔ record.Obstacle crash := by
  rcases resolved.addPackage_cases record with
    ⟨other, hobstacle, hresult⟩ | ⟨hreleases, hsource, hresult⟩ | ⟨hreleases, hname, hversion, hresult⟩
  · rw [hresult, Except.error.injEq]
    constructor
    · rintro rfl
      exact hobstacle
    · exact hobstacle.eq
  · have hfits : record.IsResolvable := ⟨.inr hsource, fun hcounts => absurd hcounts hreleases⟩
    rw [hresult]
    exact ⟨nofun, fun h => absurd h (hfits.not_obstacle crash)⟩
  · rw [hresult]
    constructor
    · nofun
    · rintro (⟨hfilled, hstray⟩ | ⟨_, hstray⟩)
      · exact absurd hstray (hreleases.not_stray hfilled)
      · simp [hname, hversion] at hstray

/-- One more package keeps the sets filled, and keeps a map of texts if and only if it fits in
one. -/
private theorem addPackage_eq_ok {resolved after : Resolved} {record : PackageRecord}
    (h : (resolved.addPackage record).result = .ok after) :
    ((∀ known ∈ resolved, known.2 ≠ []) → ∀ known ∈ after, known.2 ≠ []) ∧
      (IsOfTexts after ↔ IsOfTexts resolved ∧ record.IsResolvable) := by
  rcases resolved.addPackage_cases record with
    ⟨crash, _, hresult⟩ | ⟨hreleases, hsource, hresult⟩ | ⟨hreleases, _, _, hresult⟩
  · rw [hresult] at h
    cases h
  · rw [hresult] at h
    cases h
    have hfits : record.IsResolvable := ⟨.inr hsource, fun hcounts => absurd hcounts hreleases⟩
    exact ⟨id, (and_iff_left hfits).symm⟩
  · rw [hresult] at h
    cases h
    refine ⟨fun hfilled => add_ne_nil hfilled record.name record.version, ?_⟩
    rw [isOfTexts_add]
    exact and_congr_right fun _ => ⟨fun htexts => ⟨hreleases.source_plain, fun _ => htexts⟩,
      fun hfits => hfits.2 hreleases⟩

private theorem foldlM_addPackage_eq_error_iff {resolved : Resolved} {packages : List PackageRecord}
    {crash : Crash} :
    (packages.foldlM addPackage resolved).result = .error crash ↔
      ∃ before record after, packages = before ++ record :: after ∧
        (∀ earlier ∈ before, ∀ other, ¬earlier.Obstacle other) ∧ record.Obstacle crash := by
  induction packages generalizing resolved with
  | nil => simp
  | cons record rest ih =>
    rw [List.foldlM_cons, Run.result_bind]
    cases hresult : (resolved.addPackage record).result with
    | error other =>
      have hobstacle := addPackage_eq_error_iff.mp hresult
      rw [error_bind, Except.error.injEq]
      constructor
      · rintro rfl
        exact ⟨[], record, rest, rfl, by simp, hobstacle⟩
      · rintro ⟨before, stopped, after, hsplit, hbefore, hstopped⟩
        cases before with
        | nil =>
          cases hsplit
          exact hobstacle.eq hstopped
        | cons first later =>
          cases hsplit
          exact absurd hobstacle (hbefore record List.mem_cons_self other)
    | ok next =>
      have hnone (other : Crash) : ¬record.Obstacle other := by
        intro hobstacle
        have hstopped : (resolved.addPackage record).result = .error other := addPackage_eq_error_iff.mpr hobstacle
        rw [hresult] at hstopped
        cases hstopped
      rw [ok_bind, ih]
      constructor
      · rintro ⟨before, stopped, after, rfl, hbefore, hstopped⟩
        exact ⟨record :: before, stopped, after, rfl, List.forall_mem_cons.mpr ⟨hnone, hbefore⟩, hstopped⟩
      · rintro ⟨before, stopped, after, hsplit, hbefore, hstopped⟩
        cases before with
        | nil =>
          cases hsplit
          exact absurd hstopped (hnone crash)
        | cons first later =>
          cases hsplit
          exact ⟨later, stopped, after, rfl, (List.forall_mem_cons.mp hbefore).2, hstopped⟩

private theorem foldlM_addPackage_eq_ok {resolved after : Resolved} {packages : List PackageRecord}
    (h : (packages.foldlM addPackage resolved).result = .ok after) :
    ((∀ known ∈ resolved, known.2 ≠ []) → ∀ known ∈ after, known.2 ≠ []) ∧
      (IsOfTexts after ↔ IsOfTexts resolved ∧ ∀ record ∈ packages, record.IsResolvable) := by
  induction packages generalizing resolved with
  | nil =>
    cases h
    simp
  | cons record rest ih =>
    rw [List.foldlM_cons] at h
    obtain ⟨next, hstep, hrun⟩ := Run.result_bind_eq_ok.mp h
    obtain ⟨hfilled, htexts⟩ := addPackage_eq_ok hstep
    obtain ⟨hlater, hlaterTexts⟩ := ih hrun
    exact ⟨hlater ∘ hfilled, by rw [hlaterTexts, htexts, List.forall_mem_cons, and_assoc]⟩

/-- A graph is accepted if and only if it lists objects with names and versions, and then its
packages are these as they stand. They are resolved unless one of them has an obstacle, and the
first that has one is the crash. The sets of versions are never empty. What is resolved is a map of
texts to sets of texts if and only if each package has a source that is unfilled or a text, and
texts for name and version where its source makes it count. -/
theorem ofPackages_ofGraph (graph : Json) :
    (∀ records, PackageRecord.ofGraph graph = .ok records ↔
      ∃ packages, graph.member "packages" = .arr packages ∧ (∀ raw ∈ packages, PackageRecord.IsComplete raw) ∧
        packages.map PackageRecord.ofRaw = records) ∧
    ∀ records, PackageRecord.ofGraph graph = .ok records →
      (∀ crash, (ofPackages records).result = .error crash ↔
        ∃ before record after, records = before ++ record :: after ∧
          (∀ earlier ∈ before, ∀ other, ¬earlier.Obstacle other) ∧ record.Obstacle crash) ∧
      (∀ resolved, (ofPackages records).result = .ok resolved → ∀ known ∈ resolved, known.2 ≠ []) ∧
      ((∃ resolved, (ofPackages records).result = .ok resolved ∧ IsOfTexts resolved) ↔
        ∀ record ∈ records, record.IsResolvable) := by
  refine ⟨fun records => PackageRecord.ofGraph_eq_ok_iff, ?_⟩
  intro records _
  refine ⟨fun crash => foldlM_addPackage_eq_error_iff, ?_, ?_⟩
  · intro resolved hresult
    exact (foldlM_addPackage_eq_ok hresult).1 (by simp)
  · cases hresult : (ofPackages records).result with
    | ok resolved =>
      have htexts := (foldlM_addPackage_eq_ok hresult).2
      rw [and_iff_right (by simp [IsOfTexts])] at htexts
      simp [htexts]
    | error crash =>
      obtain ⟨before, record, after, rfl, _, hobstacle⟩ := foldlM_addPackage_eq_error_iff.mp hresult
      constructor
      · rintro ⟨_, h, _⟩
        cases h
      · intro hfits
        exact absurd hobstacle ((hfits record (by simp)).not_obstacle crash)

def onePackage (name source : Json) : Json :=
  .obj [("packages", .arr [.obj [("name", name), ("version", .str "1.0.0"), ("source", source)]])]

/-- A package from a path may have a number for its name, since it does not count. -/
theorem ofPackages_ofGraph_path :
    PackageRecord.ofGraph (onePackage (.int 5) (.str "path+file")) = .ok [⟨.int 5, .str "1.0.0", .str "path+file"⟩] ∧
      ∃ resolved, (ofPackages [⟨.int 5, .str "1.0.0", .str "path+file"⟩]).result = .ok resolved ∧
        IsOfTexts resolved := by
  obtain ⟨haccepted, hresolved⟩ := ofPackages_ofGraph (onePackage (.int 5) (.str "path+file"))
  have hgraph : PackageRecord.ofGraph (onePackage (.int 5) (.str "path+file")) =
      .ok [⟨.int 5, .str "1.0.0", .str "path+file"⟩] :=
    (haccepted _).mpr ⟨_, rfl, List.forall_mem_singleton.mpr ⟨rfl, rfl⟩, rfl⟩
  refine ⟨hgraph, (hresolved _ hgraph).2.2.mpr (List.forall_mem_singleton.mpr ⟨.inr ⟨_, rfl⟩, ?_⟩)⟩
  rintro (hunfilled | ⟨source, hsource, hbegins⟩)
  · cases hunfilled
  · cases hsource
    exact absurd hbegins (by decide)

/-- Accepted graphs whose package has a number for its source, a list for its name or a number for
its name: the first two are crashes, and what the last is resolved to is no map of texts. -/
theorem ofPackages_untyped :
    PackageRecord.ofGraph (onePackage (.str "serde") (.int 5)) = .ok [⟨.str "serde", .str "1.0.0", .int 5⟩] ∧
      (ofPackages [⟨.str "serde", .str "1.0.0", .int 5⟩]).result = .error .sourceNotText ∧
      PackageRecord.ofGraph (onePackage (.arr [.str "x"]) .null) = .ok [⟨.arr [.str "x"], .str "1.0.0", .null⟩] ∧
      (ofPackages [⟨.arr [.str "x"], .str "1.0.0", .null⟩]).result = .error .unhashable ∧
      PackageRecord.ofGraph (onePackage (.int 1) .null) = .ok [⟨.int 1, .str "1.0.0", .null⟩] ∧
      (ofPackages [⟨.int 1, .str "1.0.0", .null⟩]).result = .ok [(.int 1, [.str "1.0.0"])] :=
  ⟨rfl, rfl, rfl, rfl, rfl, rfl⟩

end Resolved

end CrateGuard
