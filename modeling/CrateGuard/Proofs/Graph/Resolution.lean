import Mathlib.Tactic.SplitIfs
import CrateGuard.Graph.Resolution
import CrateGuard.Proofs.Json.Views
import CrateGuard.Proofs.Run

/-! Resolving a row of packages with texts for names and versions. The versions of a name are those
of the packages of that name that come from the registry, and no others. -/

namespace CrateGuard

namespace PackageRecord

/-- A package whose name and version are texts, and whose source is a text or absent. -/
structure IsPlain (record : PackageRecord) : Prop where
  name_text : ∃ name, record.name = .str name
  version_text : ∃ version, record.version = .str version
  source_text : record.source = .null ∨ ∃ source, record.source = .str source

/-- A package without a source, or with one that names a registry. -/
def IsRegistrySourced (record : PackageRecord) : Prop :=
  record.source = .null ∨
    ∃ source, record.source = .str source ∧ (source = [] ∨ Text.ofString Resolved.registryMark <+: source)

def Resolves (record : PackageRecord) (name version : Text) : Prop :=
  record.name = .str name ∧ record.version = .str version ∧ record.IsRegistrySourced

theorem IsPlain.isRegistrySource {record : PackageRecord} (h : record.IsPlain) :
    ∃ registry, Resolved.isRegistrySource record.source = .ok registry ∧
      (registry = true ↔ record.IsRegistrySourced) := by
  unfold IsRegistrySourced
  rcases h.source_text with hsource | ⟨source, hsource⟩
  · exact ⟨true, by rw [hsource]; rfl, by simp [hsource]⟩
  · rw [hsource]
    cases source with
    | nil => exact ⟨true, rfl, by simp⟩
    | cons c rest => exact ⟨_, rfl, by simp⟩

end PackageRecord

namespace Resolved

private theorem versions_cons (k name : Text) (known : List Json) (rest : Resolved) :
    versions ((.str k, known) :: rest) name = if k = name then known else versions rest name := by
  unfold versions
  rw [List.find?_cons]
  split_ifs with hk
  · rw [Json.same_str_iff.mpr (by rw [hk])]
    rfl
  · cases hsame : (Json.str k).same (.str name) with
    | true => cases Json.same_str_iff.mp hsame; contradiction
    | false => rfl

private theorem mem_addVersion {known : List Json} {t : Text} {version : Json} :
    version ∈ addVersion known (.str t) ↔ version ∈ known ∨ version = .str t := by
  unfold addVersion
  split_ifs with hany
  · obtain ⟨other, hmem, hsame⟩ := List.any_eq_true.mp hany
    rw [Json.same_str_iff] at hsame
    subst hsame
    constructor
    · exact Or.inl
    · rintro (h | rfl)
      · exact h
      · exact hmem
  · simp

private theorem nodup_addVersion {known : List Json} (h : known.Nodup) (t : Text) :
    (addVersion known (.str t)).Nodup := by
  unfold addVersion
  split_ifs with hany
  · exact h
  · rw [List.nodup_append]
    refine ⟨h, by simp, ?_⟩
    rintro version hmem _ hnew rfl
    rw [List.mem_singleton] at hnew
    exact hany (List.any_eq_true.mpr ⟨version, hmem, Json.same_str_iff.mpr hnew⟩)

private theorem mem_versions_add {resolved : Resolved}
    (hkeys : ∀ known ∈ resolved, ∃ k, known.1 = .str k)
    {s t name : Text} {version : Json} :
    version ∈ (add (.str s) (.str t) resolved).versions name ↔
      version ∈ resolved.versions name ∨ s = name ∧ version = .str t := by
  induction resolved with
  | nil =>
    rw [add, versions_cons]
    split_ifs with hs <;> simp [versions, hs]
  | cons known rest ih =>
    obtain ⟨⟨k, hk⟩, hrest⟩ := List.forall_mem_cons.mp hkeys
    obtain ⟨key, versionsOfKey⟩ := known
    subst hk
    by_cases hsame : k = s
    · subst hsame
      rw [add, if_pos (Json.same_str_iff.mpr rfl), versions_cons, versions_cons]
      split_ifs with hname
      · rw [mem_addVersion]
        simp [hname]
      · simp [hname]
    · have hother : ¬(Json.str k).same (.str s) = true := by
        rw [Json.same_str_iff, Json.str.injEq]
        exact fun h => hsame h.symm
      rw [add, if_neg hother, versions_cons, versions_cons]
      split_ifs with hname
      · subst hname
        simp [Ne.symm hsame]
      · exact ih hrest

private theorem add_keys {resolved : Resolved} (hkeys : ∀ known ∈ resolved, ∃ k, known.1 = .str k)
    (s : Text)
    (version : Json) : ∀ known ∈ add (.str s) version resolved, ∃ k, known.1 = .str k := by
  induction resolved with
  | nil => simp [add]
  | cons known rest ih =>
    obtain ⟨hknown, hrest⟩ := List.forall_mem_cons.mp hkeys
    rw [add]
    split_ifs
    · exact List.forall_mem_cons.mpr ⟨hknown, hrest⟩
    · exact List.forall_mem_cons.mpr ⟨hknown, ih hrest⟩

theorem add_nodup {resolved : Resolved} (h : ∀ known ∈ resolved, known.2.Nodup) (name : Json)
    (t : Text) :
    ∀ known ∈ add name (.str t) resolved, known.2.Nodup := by
  induction resolved with
  | nil => simp [add]
  | cons known rest ih =>
    obtain ⟨hknown, hrest⟩ := List.forall_mem_cons.mp h
    rw [add]
    split_ifs
    · exact List.forall_mem_cons.mpr ⟨nodup_addVersion hknown t, hrest⟩
    · exact List.forall_mem_cons.mpr ⟨hknown, ih hrest⟩

theorem versions_eq_nil_or_mem (resolved : Resolved) (name : Text) :
    resolved.versions name = [] ∨ ∃ known ∈ resolved, resolved.versions name = known.2 := by
  rw [versions]
  cases hfind : resolved.find? fun known => known.1.same (.str name) with
  | none => exact .inl rfl
  | some known => exact .inr ⟨known, List.mem_of_find?_eq_some hfind, rfl⟩

private theorem nodup_versions {resolved : Resolved} (h : ∀ known ∈ resolved, known.2.Nodup)
    (name : Text) :
    (resolved.versions name).Nodup := by
  obtain hnil | ⟨known, hknown, heq⟩ := resolved.versions_eq_nil_or_mem name
  · rw [hnil]
    exact List.nodup_nil
  · rw [heq]
    exact h known hknown

/-- The resolved versions of a row of packages: those of each name, each once, and nothing under a
name that is no text. -/
structure Collects (resolved : Resolved) (packages : List PackageRecord) : Prop where
  keys : ∀ known ∈ resolved, ∃ k, known.1 = .str k
  nodup : ∀ known ∈ resolved, known.2.Nodup
  mem_iff : ∀ name version, version ∈ resolved.versions name ↔
    ∃ record ∈ packages, ∃ t, version = .str t ∧ record.Resolves name t

theorem Collects.str_mem_iff {resolved : Resolved} {packages : List PackageRecord}
    (h : Collects resolved packages) (name t : Text) :
    .str t ∈ resolved.versions name ↔ ∃ record ∈ packages, record.Resolves name t := by
  rw [h.mem_iff]
  constructor
  · rintro ⟨record, hmem, u, hu, hresolves⟩
    cases hu
    exact ⟨record, hmem, hresolves⟩
  · rintro ⟨record, hmem, hresolves⟩
    exact ⟨record, hmem, t, rfl, hresolves⟩

/-- Rows of packages with the same versions from the registry are resolved to the same versions,
which may stand in another order. -/
theorem Collects.versions_perm {first second : Resolved} {packages others : List PackageRecord}
    (hfirst : Collects first packages) (hsecond : Collects second others)
    (hsame : ∀ name t, (∃ record ∈ packages, record.Resolves name t) ↔ ∃ record ∈ others, record.Resolves name t)
    (name : Text) : (first.versions name).Perm (second.versions name) := by
  have hnodup := nodup_versions hfirst.nodup name
  rw [List.perm_ext_iff_of_nodup hnodup (nodup_versions hsecond.nodup name)]
  intro version
  rw [hfirst.mem_iff, hsecond.mem_iff]
  constructor
  · rintro ⟨record, hmem, t, ht, hresolves⟩
    obtain ⟨other, hother, hresolves⟩ := (hsame name t).mp ⟨record, hmem, hresolves⟩
    exact ⟨other, hother, t, ht, hresolves⟩
  · rintro ⟨other, hmem, t, ht, hresolves⟩
    obtain ⟨record, hrecord, hresolves⟩ := (hsame name t).mpr ⟨other, hmem, hresolves⟩
    exact ⟨record, hrecord, t, ht, hresolves⟩

private theorem collects_nil : Collects [] [] := by
  refine ⟨by simp, by simp, ?_⟩
  intro name version
  simp [versions]

/-- One more package adds its version if it comes from the registry, and nothing otherwise. -/
theorem Collects.addPackage {resolved : Resolved} {packages : List PackageRecord}
    (h : Collects resolved packages) {record : PackageRecord} (hplain : record.IsPlain) :
    ∃ after, (resolved.addPackage record).result = .ok after ∧ Collects after (packages ++ [record]) := by
  obtain ⟨s, hname⟩ := hplain.name_text
  obtain ⟨t, hversion⟩ := hplain.version_text
  obtain ⟨registry, hregistry, hiff⟩ := hplain.isRegistrySource
  have hresolves (name version : Text) :
      record.Resolves name version ↔ registry = true ∧ s = name ∧ version = t := by
    rw [PackageRecord.Resolves, hname, hversion, ← hiff, Json.str.injEq, Json.str.injEq]
    constructor
    · rintro ⟨hs, ht, hr⟩
      exact ⟨hr, hs, ht.symm⟩
    · rintro ⟨hr, hs, ht⟩
      exact ⟨hs, ht.symm, hr⟩
  cases registry with
  | false =>
    refine ⟨resolved, by simp [Resolved.addPackage, hregistry], h.keys, h.nodup, ?_⟩
    intro name version
    rw [h.mem_iff]
    simp [hresolves]
  | true =>
    refine ⟨add (.str s) (.str t) resolved, ?_, add_keys h.keys s (.str t), add_nodup h.nodup (.str s) t, ?_⟩
    · simp [Resolved.addPackage, hregistry, hname, hversion]
    · intro name version
      rw [mem_versions_add h.keys, h.mem_iff]
      simp only [List.mem_append, List.mem_singleton, or_and_right, exists_or, exists_eq_left, hresolves,
        true_and]
      apply or_congr_right
      constructor
      · rintro ⟨hs, hv⟩
        exact ⟨t, hv, hs, rfl⟩
      · rintro ⟨_, hv, hs, rfl⟩
        exact ⟨hs, hv⟩

theorem Collects.foldlM_addPackage {resolved : Resolved} {seen packages : List PackageRecord}
    (h : Collects resolved seen) (hplain : ∀ record ∈ packages, record.IsPlain) :
    ∃ after, (packages.foldlM Resolved.addPackage resolved).result = .ok after ∧
      Collects after (seen ++ packages) := by
  induction packages generalizing resolved seen with
  | nil => exact ⟨resolved, rfl, by rwa [List.append_nil]⟩
  | cons record rest ih =>
    obtain ⟨hrecord, hrest⟩ := List.forall_mem_cons.mp hplain
    obtain ⟨between, hstep, hbetween⟩ := h.addPackage hrecord
    obtain ⟨after, hrun, hafter⟩ := ih hbetween hrest
    refine ⟨after, ?_, by rwa [List.append_assoc] at hafter⟩
    rw [List.foldlM_cons, Run.result_bind, hstep, ok_bind, hrun]

/-- A row of plain packages is always resolved, and the versions of a name are those of its packages
that come from the registry. -/
theorem ofPackages_collects {packages : List PackageRecord}
    (hplain : ∀ record ∈ packages, record.IsPlain) :
    ∃ resolved, (ofPackages packages).result = .ok resolved ∧ Collects resolved packages :=
  collects_nil.foldlM_addPackage hplain

end Resolved

end CrateGuard
