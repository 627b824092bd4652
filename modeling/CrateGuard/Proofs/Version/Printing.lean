import CrateGuard.Proofs.Version.Parsing

/-! Versions written and read. A version that is written is read again as itself. A text that is
read and written back loses its build metadata and the leading zeros of its core numbers, and
nothing more the next time; its identifiers stay as they are, zeros included. -/

namespace CrateGuard.Version
open Text

def parts (v : Version) : Parts :=
  ⟨ofString (toString v.major), ofString (toString v.minor), ofString (toString v.patch), v.prerelease, none⟩

def Parts.bare (parts : Parts) : Parts :=
  ⟨trimZeros parts.major, trimZeros parts.minor, trimZeros parts.patch, parts.identifiers, none⟩

theorem ofString_append (a b : String) : ofString (a ++ b) = ofString a ++ ofString b := by
  rw [ofString, String.toList_append, List.map_append]
  rfl

private theorem coreText_eq (v : Version) :
    v.coreText = v.parts.major ++ .char '.' :: (v.parts.minor ++ .char '.' :: v.parts.patch) := by
  simp only [coreText, ofString_append, List.append_assoc]
  rfl

private theorem text_eq (v : Version) : v.text = v.parts.text := by
  have hcore := v.coreText_eq
  obtain ⟨_, _, _, prerelease⟩ := v
  rw [text, hcore]
  cases prerelease with
  | nil => simp [Parts.text, Parts.label, parts, labelPart, buildPart]
  | cons first rest => simp [Parts.text, Parts.label, parts, labelPart, buildPart, ofString]

theorem ofString_toString_of_nonneg {n : Int} (h : 0 ≤ n) :
    ofString (toString n) = ofString (toString n.toNat) := by
  obtain ⟨k, rfl⟩ := Int.eq_ofNat_of_zero_le h
  rfl

section
variable {v : Version} (wf : v.WellFormed)
include wf

theorem WellFormed.parts_writes : v.parts.Writes v.text := by
  have hnumeral {n : Int} (h : 0 ≤ n) : isAsciiNumeral (ofString (toString n)) = true := by
    rw [ofString_toString_of_nonneg h]
    exact isAsciiNumeral_ofString_toString n.toNat
  refine ⟨⟨hnumeral wf.major_nonneg, hnumeral wf.minor_nonneg, hnumeral wf.patch_nonneg, ?_, by simp [parts]⟩,
    v.text_eq.symm⟩
  intro identifier hmem
  exact isIdentifier_iff.mpr ⟨wf.identifier_ne_nil identifier hmem, wf.identifier_point identifier hmem⟩

private theorem WellFormed.version_parts : v.parts.version = v := by
  have hvalue {n : Int} (h : 0 ≤ n) : (asciiValue (ofString (toString n)) : Int) = n := by
    rw [ofString_toString_of_nonneg h, asciiValue_ofString_toString, Int.toNat_of_nonneg h]
  rw [Parts.version, parts, hvalue wf.major_nonneg, hvalue wf.minor_nonneg, hvalue wf.patch_nonneg]

theorem WellFormed.parse_text (hcore : v.parts.HasShortCore) : parse v.text = .ok v :=
  parse_eq_ok_iff.mpr ⟨v.parts, wf.parts_writes, hcore, wf.version_parts⟩

end

section
variable {parts : Parts}

/-- What was read is written without the build metadata and the leading zeros. -/
theorem Parts.WellFormed.parts_version (wf : parts.WellFormed) :
    parts.version.parts = parts.bare := by
  have hnumeral {digits : Text} (h : isAsciiNumeral digits = true) :
      ofString (toString (asciiValue digits : Int)) = trimZeros digits :=
    ofString_toString_asciiValue h
  rw [Version.parts, Parts.version, hnumeral wf.major, hnumeral wf.minor, hnumeral wf.patch, Parts.bare]

theorem Parts.HasShortCore.bare (h : parts.HasShortCore) : parts.bare.HasShortCore := by
  simp only [Parts.HasShortCore, List.forall_mem_cons, List.not_mem_nil, false_implies, implies_true, and_true] at h ⊢
  obtain ⟨hmajor, hminor, hpatch⟩ := h
  exact ⟨Nat.le_trans (trimZeros_sublist _).length_le hmajor, Nat.le_trans (trimZeros_sublist _).length_le hminor,
    Nat.le_trans (trimZeros_sublist _).length_le hpatch⟩

end

/-- Reading undoes writing, for every version that can be read. What is read and written back is the
text without its build metadata and without the leading zeros of its core numbers, so that reading
it again changes nothing. -/
theorem parse_undoes_text :
    (∀ v : Version, v.WellFormed → v.parts.HasShortCore → parse v.text = .ok v) ∧
      ∀ s v, parse s = .ok v →
        (∃ parts : Parts, parts.Writes s ∧ v.text = parts.bare.text) ∧ parse v.text = .ok v := by
  refine ⟨fun _ => WellFormed.parse_text, ?_⟩
  intro s v hv
  obtain ⟨parts, hwrites, hcore, rfl⟩ := parse_eq_ok_iff.mp hv
  have hparts := hwrites.1.parts_version
  refine ⟨⟨parts, hwrites, by rw [text_eq, hparts]⟩, (parse_wellFormed hv).parse_text ?_⟩
  rw [hparts]
  exact hcore.bare

/-- Padded core numbers lose their zeros and padded identifiers keep them. -/
theorem parse_undoes_text_padded :
    parse "1.20.0-00.a-1" = .ok ⟨1, 20, 0, ["00", "a-1"]⟩ ∧
      ∃ v, parse "01.020.000-00.a-1+x.y" = .ok v ∧ v.text = "1.20.0-00.a-1" ∧ parse v.text = .ok v := by
  have hv : parse "01.020.000-00.a-1+x.y" = .ok ⟨1, 20, 0, ["00", "a-1"]⟩ := by rfl
  have hcore : (parts ⟨1, 20, 0, ["00", "a-1"]⟩).HasShortCore := by
    unfold Parts.HasShortCore
    decide
  exact ⟨parse_undoes_text.1 _ (parse_wellFormed hv) hcore, _, hv, rfl, (parse_undoes_text.2 _ _ hv).2⟩

end CrateGuard.Version
