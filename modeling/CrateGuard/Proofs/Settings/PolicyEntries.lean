import CrateGuard.Proofs.Settings.Loading
import CrateGuard.Proofs.Settings.PolicyShape

/-! What a policy that is read promises: its ids are texts, none empty and none twice, and its
window lies in range. -/

namespace CrateGuard.Policy

structure WellFormed (policy : Policy) : Prop where
  id_text : ∀ entry ∈ policy.allow, ∃ id, id ≠ [] ∧ entry.id = .str id
  id_nodup : (policy.allow.map AllowEntry.id).Nodup
  window_pos : 1 ≤ policy.window
  window_le : policy.window ≤ maxReviewWindow

structure HasDistinctIds (policy : Policy) : Prop where
  id_text : ∀ entry ∈ policy.allow, ∃ id, entry.id = .str id
  id_nodup : (policy.allow.map AllowEntry.id).Nodup

theorem WellFormed.hasDistinctIds {policy : Policy} (wf : policy.WellFormed) :
    policy.HasDistinctIds := by
  refine ⟨?_, wf.id_nodup⟩
  intro entry hentry
  obtain ⟨id, _, htext⟩ := wf.id_text entry hentry
  exact ⟨id, htext⟩

private theorem ofJson_wellFormed {value : Json} {policy : Policy} (h : ofJson value = .ok policy) :
    policy.WellFormed := by
  obtain ⟨hshape, hwindow, hallow⟩ := ofJson_eq_ok_iff.mp h
  obtain ⟨hpos, hle⟩ := hwindow.range
  refine ⟨?_, ?_, hpos, hle⟩
  · rw [hallow]
    intro entry hentry
    obtain ⟨raw, hmem, rfl⟩ := List.mem_map.mp hentry
    exact (hshape.entries raw hmem).id
  · rw [hallow, List.map_map]
    exact hshape.distinct

theorem load_wellFormed {files : FileTree} {place : ShownPath} {policy : Policy}
    (h : (load files place).result = .ok (.ok policy)) : policy.WellFormed := by
  obtain ⟨value, _, hvalue⟩ := Settings.exists_value_of_load h
  exact ofJson_wellFormed hvalue

private theorem mem_of_entryFor {policy : Policy} {id : Json} {entry : AllowEntry}
    (h : policy.entryFor id = some entry) : entry ∈ policy.allow ∧ entry.id.equals id = true := by
  unfold entryFor at h
  exact ⟨List.mem_of_find?_eq_some h, by simpa using List.find?_some h⟩

/-- In a policy without repeated ids, an entry is the one found for its id. -/
theorem HasDistinctIds.entryFor_eq_some_iff {policy : Policy} (h : policy.HasDistinctIds)
    {id : Json}
    {entry : AllowEntry} : policy.entryFor id = some entry ↔ entry ∈ policy.allow ∧ entry.id = id := by
  have hequals : ∀ other ∈ policy.allow, (other.id.equals id = true ↔ other.id = id) := fun other hother =>
    Json.equals_iff_of_text (h.id_text other hother)
  constructor
  · intro hfound
    obtain ⟨hmem, he⟩ := mem_of_entryFor hfound
    exact ⟨hmem, (hequals entry hmem).mp he⟩
  · rintro ⟨hmem, hid⟩
    have hsome : (policy.entryFor id).isSome :=
      List.find?_isSome.mpr ⟨entry, hmem, (hequals entry hmem).mpr hid⟩
    obtain ⟨found, hfound⟩ := Option.isSome_iff_exists.mp hsome
    obtain ⟨hfmem, he⟩ := mem_of_entryFor hfound
    have hfid := (hequals found hfmem).mp he
    rw [hfound, List.inj_on_of_nodup_map h.id_nodup hfmem hmem (hfid.trans hid.symm)]

end CrateGuard.Policy
