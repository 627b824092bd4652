import CrateGuard.Proofs.Except
import CrateGuard.Proofs.Version.Parsing
import CrateGuard.Proofs.Version.Reference

/-! The canonical form of a version that was read. Its label joins the identifiers as far as they
count, and the parts of the label are those identifiers again. -/

namespace CrateGuard.Version
open Text

/-- The canonical form of a version without negative numbers and long numerals. -/
def canonicalForm (v : Version) : CanonicalVersion :=
  ⟨v.major.toNat, v.minor.toNat, v.patch.toNat, labelText (v.prerelease.map normalIdentifier)⟩

private theorem code_lt_of_isLabelPoint {c : CodePoint} (h : isLabelPoint c = true) :
    c.code < 128 := by
  cases c with
  | half offset => simp [isLabelPoint, CodePoint.isAlphanum] at h
  | char c =>
    change (((decide (65 ≤ c.val ∧ c.val ≤ 90) || (97 ≤ c.val && c.val ≤ 122)) ||
      (48 ≤ c.val && c.val ≤ 57)) || CodePoint.char c == '-' || CodePoint.char c == '.') = true at h
    simp only [Bool.or_eq_true, Bool.and_eq_true, decide_eq_true_eq, beq_iff_eq, CodePoint.char.injEq] at h
    rcases h with (((⟨_, h⟩ | ⟨_, h⟩) | ⟨_, h⟩) | rfl) | rfl
    · exact Nat.lt_of_le_of_lt (UInt32.le_iff_toNat_le.mp h) (by decide)
    · exact Nat.lt_of_le_of_lt (UInt32.le_iff_toNat_le.mp h) (by decide)
    · exact Nat.lt_of_le_of_lt (UInt32.le_iff_toNat_le.mp h) (by decide)
    · decide
    · decide

private theorem WellFormed.isAscii {v : Version} (wf : v.WellFormed) {identifier : Text}
    (h : identifier ∈ v.prerelease) : IsAscii identifier :=
  fun c hc => code_lt_of_isLabelPoint (wf.identifier_point identifier h c hc).1

private theorem canonicalIdentifier_eq {identifier : Text} (h : IsAscii identifier)
    (hshort : identifier.all isAsciiDigit = true → identifier.length ≤ digitLimit) :
    canonicalIdentifier identifier = .ok (normalIdentifier identifier) := by
  rw [canonicalIdentifier, normalIdentifier, isNumeral_ascii h]
  cases hnumeral : isAsciiNumeral identifier with
  | false => rfl
  | true =>
    have hdigits := List.all_eq_true.mpr (isAsciiNumeral_iff.mp hnumeral).2
    rw [decimalNumber?_ascii h, if_pos hdigits, if_pos rfl, ← ofString_toString_asciiValue hnumeral]
    simp [Nat.not_lt.mpr (hshort hdigits)]

private theorem canonicalNumber_eq {n : Int} (h : 0 ≤ n) : canonicalNumber n = .ok n.toNat := by
  cases n with
  | ofNat n => rfl
  | negSucc n => omega

theorem WellFormed.canonical_eq {v : Version} (wf : v.WellFormed) (hv : v.HasShortNumerals) :
    v.canonical = .ok v.canonicalForm := by
  have hidentifiers : v.prerelease.mapM canonicalIdentifier = .ok (v.prerelease.map normalIdentifier) :=
    mapM_eq_ok_map fun identifier h => canonicalIdentifier_eq (wf.isAscii h) (hv identifier h)
  rw [canonical, hidentifiers, canonicalNumber_eq wf.major_nonneg, canonicalNumber_eq wf.minor_nonneg,
    canonicalNumber_eq wf.patch_nonneg]
  rfl

private theorem length_le_of_canonicalIdentifier {identifier part : Text} (h : IsAscii identifier)
    (hne : identifier ≠ []) (hdigits : identifier.all isAsciiDigit = true)
    (hpart : canonicalIdentifier identifier = .ok part) : identifier.length ≤ digitLimit := by
  have hnumeral : isAsciiNumeral identifier = true := isAsciiNumeral_iff.mpr ⟨hne, List.all_eq_true.mp hdigits⟩
  rw [canonicalIdentifier, isNumeral_ascii h, hnumeral, decimalNumber?_ascii h, if_pos hdigits] at hpart
  apply Nat.le_of_not_lt
  intro hlong
  simp [hlong] at hpart

/-- A version that has a canonical form has no long numerals. -/
theorem WellFormed.hasShortNumerals_of_canonical {v : Version} (wf : v.WellFormed)
    {x : CanonicalVersion}
    (h : v.canonical = .ok x) : v.HasShortNumerals := by
  obtain ⟨parts, hparts, _⟩ := bind_eq_ok.mp h
  intro identifier hmem hdigits
  obtain ⟨part, hpart⟩ := exists_ok_of_mapM hparts identifier hmem
  exact length_le_of_canonicalIdentifier (wf.isAscii hmem) (wf.identifier_ne_nil identifier hmem) hdigits hpart

private theorem compare_toNat {m n : Int} (hm : 0 ≤ m) (hn : 0 ≤ n) :
    compare m.toNat n.toNat = compare m n := by
  obtain ⟨k, rfl⟩ := Int.eq_ofNat_of_zero_le hm
  obtain ⟨l, rfl⟩ := Int.eq_ofNat_of_zero_le hn
  rw [Nat.compare_eq_ite_lt, Int.compare_eq_ite_lt]
  simp only [Int.toNat_natCast, Int.ofNat_lt]

theorem WellFormed.orderCores_eq {v w : Version} (hv : v.WellFormed) (hw : w.WellFormed) :
    v.canonicalForm.orderCores w.canonicalForm =
      (compare v.major w.major).then ((compare v.minor w.minor).then (compare v.patch w.patch)) := by
  rw [CanonicalVersion.orderCores, canonicalForm, canonicalForm, compare_toNat hv.major_nonneg hw.major_nonneg,
    compare_toNat hv.minor_nonneg hw.minor_nonneg, compare_toNat hv.patch_nonneg hw.patch_nonneg]

theorem normalIdentifier_sublist (identifier : Text) :
    (normalIdentifier identifier).Sublist identifier := by
  unfold normalIdentifier
  split_ifs
  · exact trimZeros_sublist identifier
  · exact List.Sublist.refl identifier

theorem normalIdentifier_ne_nil {identifier : Text} (h : identifier ≠ []) :
    normalIdentifier identifier ≠ [] := by
  unfold normalIdentifier
  split_ifs
  · exact trimZeros_ne_nil h
  · exact h

theorem rankOf_normalIdentifier (identifier : Text) :
    rankOf (normalIdentifier identifier) = rankOf identifier := by
  unfold normalIdentifier
  split_ifs with h
  · rw [rankOf, rankOf, if_pos (isAsciiNumeral_trimZeros h), if_pos h, asciiValue_trimZeros]
  · rfl

theorem ofPart_eq_rankOf {part : Text} (h : IsAscii part) : Rank.ofPart part = rankOf part := by
  rw [Rank.ofPart, rankOf, decimalNumber?_ascii h, isAsciiNumeral]
  cases part.isEmpty <;> cases part.all isAsciiDigit <;> rfl

private theorem isReadable_of_isAscii {part : Text} (h : IsAscii part) :
    Rank.isReadable part = true := by
  rw [Rank.isReadable, isNumeral_ascii h, isAsciiNumeral]
  cases part.isEmpty <;> cases part.all isAsciiDigit <;> rfl

/-- A version without identifiers has no label. -/
theorem canonicalForm_label_of_nil {v : Version} (h : v.prerelease = []) :
    v.canonicalForm.label = none := by
  rw [canonicalForm, h]
  rfl

theorem canonicalForm_parts_of_nil {v : Version} (h : v.prerelease = []) :
    v.canonicalForm.parts = [[]] := by
  rw [CanonicalVersion.parts, canonicalForm_label_of_nil h]
  rfl

theorem WellFormed.label_eq {v : Version} (wf : v.WellFormed) (h : v.prerelease ≠ []) :
    v.canonicalForm.label = some (join '.' (v.prerelease.map normalIdentifier)) := by
  have hjoin : join '.' (v.prerelease.map normalIdentifier) ≠ [] := by
    obtain ⟨first, rest, hcons⟩ := List.exists_cons_of_ne_nil h
    rw [hcons, List.map_cons]
    exact join_ne_nil (normalIdentifier_ne_nil (wf.identifier_ne_nil first (by rw [hcons]; simp))) _
  rw [canonicalForm, labelText]
  simpa using hjoin

private theorem WellFormed.parts_eq {v : Version} (wf : v.WellFormed) (h : v.prerelease ≠ []) :
    v.canonicalForm.parts = v.prerelease.map normalIdentifier := by
  rw [CanonicalVersion.parts, wf.label_eq h]
  apply split_join (by simpa using h)
  intro part hpart hpoint
  obtain ⟨identifier, hmem, rfl⟩ := List.mem_map.mp hpart
  exact (wf.identifier_point identifier hmem _ ((normalIdentifier_sublist identifier).subset hpoint)).2 rfl

/-- Every part of a label is in ASCII and has no leading zeros if it is made of digits. -/
theorem WellFormed.part_normal {v : Version} (wf : v.WellFormed) {part : Text}
    (h : part ∈ v.canonicalForm.parts) : IsAscii part ∧ normalIdentifier part = part := by
  by_cases hnil : v.prerelease = []
  · rw [canonicalForm_parts_of_nil hnil, List.mem_singleton] at h
    subst h
    exact ⟨fun c hc => absurd hc List.not_mem_nil, rfl⟩
  · rw [wf.parts_eq hnil] at h
    obtain ⟨identifier, hmem, rfl⟩ := List.mem_map.mp h
    refine ⟨fun c hc => wf.isAscii hmem c ((normalIdentifier_sublist identifier).subset hc), ?_⟩
    exact rankOf_eq_iff.mp (rankOf_normalIdentifier identifier)

theorem WellFormed.isReadable {v : Version} (wf : v.WellFormed) :
    v.canonicalForm.isReadable = true :=
  List.all_eq_true.mpr fun _ h => isReadable_of_isAscii (wf.part_normal h).1

/-- The parts of a label rank as the identifiers do. -/
theorem WellFormed.ranks_eq {v : Version} (wf : v.WellFormed) (h : v.prerelease ≠ []) :
    v.canonicalForm.parts.map Rank.ofPart = v.prerelease.map rankOf := by
  have hparts := List.map_congr_left fun part hpart => ofPart_eq_rankOf (wf.part_normal hpart).1
  rw [hparts, wf.parts_eq h, List.map_map]
  exact List.map_congr_left fun identifier _ => rankOf_normalIdentifier identifier

end CrateGuard.Version
