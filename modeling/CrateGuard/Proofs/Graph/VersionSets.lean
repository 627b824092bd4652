import CrateGuard.Proofs.Graph.Records

/-! The resolved versions as a relation of names and versions. They are a map: each name stands in
it once, under it are the versions of its packages from the registry, each once, and a name without
such a package does not stand in it. What two rows of packages are resolved to after one another is
the union of what each is resolved to, name by name. -/

namespace CrateGuard.Resolved

def names (resolved : Resolved) : List Json :=
  resolved.map (·.1)

structure IsVersionMap (resolved : Resolved) : Prop where
  texts : IsOfTexts resolved
  names_nodup : resolved.names.Nodup
  filled : ∀ known ∈ resolved, known.2 ≠ []
  versions_nodup : ∀ known ∈ resolved, known.2.Nodup

/-- The names of one map are those of two others, and the versions of each name are those that one
of the two has for it. -/
structure IsUnion (both first second : Resolved) : Prop where
  mem_names : ∀ name, .str name ∈ both.names ↔ .str name ∈ first.names ∨ .str name ∈ second.names
  mem_versions : ∀ name version,
    version ∈ both.versions name ↔ version ∈ first.versions name ∨ version ∈ second.versions name

section
variable {resolved : Resolved}

private theorem eq_or_mem_of_mem_names_add (s : Text) (version : Json) :
    ∀ name ∈ (add (.str s) version resolved).names, name = .str s ∨ name ∈ resolved.names := by
  induction resolved with
  | nil => simp [add, names]
  | cons known rest ih =>
    rw [add]
    split_ifs with hsame
    · exact fun name hmem => .inr hmem
    · intro name hmem
      rcases List.mem_cons.mp hmem with rfl | hlater
      · exact .inr List.mem_cons_self
      · exact (ih name hlater).imp id (List.mem_cons_of_mem _)

private theorem names_nodup_add (h : resolved.names.Nodup) (s : Text) (version : Json) :
    (add (.str s) version resolved).names.Nodup := by
  induction resolved with
  | nil => simp [add, names]
  | cons known rest ih =>
    obtain ⟨hnew, hrest⟩ := List.nodup_cons.mp h
    rw [add]
    split_ifs with hsame
    · exact h
    · refine List.nodup_cons.mpr ⟨fun hmem => ?_, ih hrest⟩
      rcases eq_or_mem_of_mem_names_add s version _ hmem with hname | hmem
      · exact hsame (Json.same_str_right_iff.mpr hname)
      · exact hnew hmem

theorem IsVersionMap.add (h : resolved.IsVersionMap) (s t : Text) :
    (add (.str s) (.str t) resolved).IsVersionMap where
  texts := isOfTexts_add.mpr ⟨h.texts, ⟨s, rfl⟩, t, rfl⟩
  names_nodup := names_nodup_add h.names_nodup s (.str t)
  filled := add_ne_nil h.filled (.str s) (.str t)
  versions_nodup := add_nodup h.versions_nodup (.str s) t

/-- One more package keeps the map a map. -/
theorem IsVersionMap.addPackage {after : Resolved} {record : PackageRecord}
    (h : resolved.IsVersionMap)
    (hplain : record.IsPlain) (hafter : (resolved.addPackage record).result = .ok after) : after.IsVersionMap := by
  rcases resolved.addPackage_cases record with ⟨crash, _, hresult⟩ | ⟨_, _, hresult⟩ | ⟨_, _, _, hresult⟩
  · cases hresult.symm.trans hafter
  · cases hresult.symm.trans hafter
    exact h
  · obtain ⟨s, hname⟩ := hplain.name_text
    obtain ⟨t, hversion⟩ := hplain.version_text
    cases hresult.symm.trans hafter
    rw [hname, hversion]
    exact h.add s t

theorem IsVersionMap.foldlM_addPackage {after : Resolved} {packages : List PackageRecord}
    (h : resolved.IsVersionMap)
    (hplain : ∀ record ∈ packages, record.IsPlain)
    (hafter : (packages.foldlM Resolved.addPackage resolved).result = .ok after) : after.IsVersionMap := by
  induction packages generalizing resolved with
  | nil =>
    cases hafter
    exact h
  | cons record rest ih =>
    obtain ⟨hrecord, hrest⟩ := List.forall_mem_cons.mp hplain
    rw [List.foldlM_cons] at hafter
    obtain ⟨between, hstep, hrun⟩ := Run.result_bind_eq_ok.mp hafter
    exact ih (h.addPackage hrecord hstep) hrest hrun

private theorem isVersionMap_nil : IsVersionMap [] where
  texts := by simp [IsOfTexts]
  names_nodup := List.nodup_nil
  filled := by simp
  versions_nodup := by simp

private theorem mem_names_iff (hfilled : ∀ known ∈ resolved, known.2 ≠ []) {name : Text} :
    .str name ∈ resolved.names ↔ resolved.versions name ≠ [] := by
  have hfound : .str name ∈ resolved.names ↔ (resolved.find? fun known => known.1.same (.str name)).isSome := by
    simp [names, Json.same_str_right_iff]
  rw [hfound, versions]
  cases hfind : resolved.find? fun known => known.1.same (.str name) with
  | none => simp
  | some known => simpa using hfilled known (List.mem_of_find?_eq_some hfind)

end

private theorem Collects.isUnion {both first second : Resolved}
    {packages others : List PackageRecord}
    (hboth : Collects both (packages ++ others)) (hfirst : Collects first packages) (hsecond : Collects second others)
    (hbothMap : both.IsVersionMap) (hfirstMap : first.IsVersionMap) (hsecondMap : second.IsVersionMap) :
    IsUnion both first second := by
  have hversions (name : Text) (version : Json) :
      version ∈ both.versions name ↔ version ∈ first.versions name ∨ version ∈ second.versions name := by
    rw [hboth.mem_iff, hfirst.mem_iff, hsecond.mem_iff]
    simp only [List.mem_append, or_and_right, exists_or]
  refine ⟨fun name => ?_, hversions⟩
  rw [mem_names_iff hbothMap.filled, mem_names_iff hfirstMap.filled, mem_names_iff hsecondMap.filled]
  simp only [ne_eq, List.eq_nil_iff_forall_not_mem, hversions, not_or, forall_and]
  exact Classical.not_and_iff_not_or_not

/-- A row of packages with texts for names and versions is resolved to a map, in which a version
stands under a name if and only if a package from the registry has the two, and a name stands if and
only if it has a version. Two rows after one another are resolved to the union, name by name, of
what they are resolved to. -/
theorem ofPackages_relates {packages others : List PackageRecord}
    (hpackages : ∀ record ∈ packages, record.IsPlain)
    (hothers : ∀ record ∈ others, record.IsPlain) :
    ∃ resolved, (ofPackages packages).result = .ok resolved ∧ resolved.IsVersionMap ∧
      (∀ name version, .str version ∈ resolved.versions name ↔ ∃ record ∈ packages, record.Resolves name version) ∧
      (∀ name, .str name ∈ resolved.names ↔ resolved.versions name ≠ []) ∧
      ∃ more both, (ofPackages others).result = .ok more ∧ (ofPackages (packages ++ others)).result = .ok both ∧
        IsUnion both resolved more := by
  have hplain : ∀ record ∈ packages ++ others, record.IsPlain := List.forall_mem_append.mpr ⟨hpackages, hothers⟩
  obtain ⟨resolved, hresolved, hcollects⟩ := ofPackages_collects hpackages
  obtain ⟨more, hmore, hcollectsMore⟩ := ofPackages_collects hothers
  obtain ⟨both, hboth, hcollectsBoth⟩ := ofPackages_collects hplain
  have hmap := isVersionMap_nil.foldlM_addPackage hpackages hresolved
  refine ⟨resolved, hresolved, hmap, hcollects.str_mem_iff, fun name => mem_names_iff hmap.filled, more, both, hmore,
    hboth, ?_⟩
  exact hcollectsBoth.isUnion hcollects hcollectsMore (isVersionMap_nil.foldlM_addPackage hplain hboth) hmap
    (isVersionMap_nil.foldlM_addPackage hothers hmore)

def twoSources : List PackageRecord :=
  [⟨.str "serde", .str "1.0.0", .str "registry+index"⟩, ⟨.str "serde", .str "2.0.0", .str "git+remote"⟩]

def laterPackages : List PackageRecord :=
  [⟨.str "serde", .str "1.0.1", .null⟩, ⟨.str "tokio", .str "1.2.0", .str ""⟩, ⟨.str "serde", .str "1.0.0", .null⟩]

theorem ofPackages_relates_twoSources :
    (ofPackages twoSources).result = .ok [(.str "serde", [.str "1.0.0"])] ∧
      (ofPackages (twoSources ++ laterPackages)).result =
        .ok [(.str "serde", [.str "1.0.0", .str "1.0.1"]), (.str "tokio", [.str "1.2.0"])] ∧
      IsUnion [(.str "serde", [.str "1.0.0", .str "1.0.1"]), (.str "tokio", [.str "1.2.0"])]
        [(.str "serde", [.str "1.0.0"])]
        [(.str "serde", [.str "1.0.1", .str "1.0.0"]), (.str "tokio", [.str "1.2.0"])] ∧
      ¬∃ record ∈ twoSources, record.Resolves "serde" "2.0.0" := by
  have hfirst : (ofPackages twoSources).result = .ok [(.str "serde", [.str "1.0.0"])] := by rfl
  have hmore : (ofPackages laterPackages).result =
      .ok [(.str "serde", [.str "1.0.1", .str "1.0.0"]), (.str "tokio", [.str "1.2.0"])] := by rfl
  have hboth : (ofPackages (twoSources ++ laterPackages)).result =
      .ok [(.str "serde", [.str "1.0.0", .str "1.0.1"]), (.str "tokio", [.str "1.2.0"])] := by rfl
  have hplain : ∀ record ∈ twoSources, record.IsPlain := by
    simp only [twoSources, List.forall_mem_cons]
    exact ⟨⟨⟨_, rfl⟩, ⟨_, rfl⟩, .inr ⟨_, rfl⟩⟩, ⟨⟨_, rfl⟩, ⟨_, rfl⟩, .inr ⟨_, rfl⟩⟩, by simp⟩
  have hlater : ∀ record ∈ laterPackages, record.IsPlain := by
    simp only [laterPackages, List.forall_mem_cons]
    exact ⟨⟨⟨_, rfl⟩, ⟨_, rfl⟩, .inl rfl⟩, ⟨⟨_, rfl⟩, ⟨_, rfl⟩, .inr ⟨_, rfl⟩⟩,
      ⟨⟨_, rfl⟩, ⟨_, rfl⟩, .inl rfl⟩, by simp⟩
  obtain ⟨resolved, hresolved, _, hversions, _, more, both, hmore', hboth', hunion⟩ := ofPackages_relates hplain hlater
  cases hfirst.symm.trans hresolved
  cases hmore.symm.trans hmore'
  cases hboth.symm.trans hboth'
  refine ⟨hfirst, hboth, hunion, fun hrecord => ?_⟩
  have hmem := (hversions "serde" "2.0.0").mpr hrecord
  simp [versions, Json.same_str_right_iff, Text.ofString] at hmem

end CrateGuard.Resolved
