import CrateGuard.Proofs.Version.Printing
import CrateGuard.Proofs.Version.TextOrder

/-! Canonical forms as texts. The text of a canonical form keeps to the strict rules, by which no
number has a leading zero, and it is read as the version with its identifiers brought into normal
form. Texts are equal in precedence if and only if the texts of their canonical forms are the
same. -/

namespace CrateGuard

def CanonicalVersion.text (x : CanonicalVersion) : Text :=
  Text.ofString s!"{x.major}.{x.minor}.{x.patch}" ++ Version.labelPart x.label

namespace Version
open Text

def HasNoLeadingZero (digits : Text) : Prop :=
  digits.head? = some '0' → digits = "0"

/-- What Semantic Versioning 2.0.0 asks of the parts beyond the grammar of the reader. -/
structure Parts.IsStrict (parts : Parts) : Prop where
  core : ∀ run ∈ [parts.major, parts.minor, parts.patch], HasNoLeadingZero run
  identifier : ∀ identifier ∈ parts.identifiers, isAsciiNumeral identifier = true → HasNoLeadingZero identifier
  build : ∀ build ∈ parts.build, ∀ identifier ∈ split '.' build, IsIdentifier identifier

def IsSemVer (s : Text) : Prop :=
  ∃ parts : Parts, parts.Writes s ∧ parts.IsStrict

def normal (v : Version) : Version :=
  { v with prerelease := v.prerelease.map normalIdentifier }

private theorem hasNoLeadingZero_trimZeros (s : Text) : HasNoLeadingZero (trimZeros s) := by
  induction s using trimZeros.induct with
  | case1 => simp [trimZeros, HasNoLeadingZero]
  | case2 c => simp [trimZeros, HasNoLeadingZero, ofString]
  | case3 d rest ih =>
    rw [trimZeros, if_pos rfl]
    exact ih
  | case4 c d rest hc =>
    rw [trimZeros, if_neg hc]
    exact fun h => absurd (Option.some.inj h) hc

private theorem hasNoLeadingZero_ofString_toString (n : Nat) :
    HasNoLeadingZero (ofString (toString n)) := by
  rw [← asciiValue_ofString_toString n, ofString_toString_asciiValue (isAsciiNumeral_ofString_toString n)]
  exact hasNoLeadingZero_trimZeros _

@[simp] theorem normalIdentifier_normalIdentifier (identifier : Text) :
    normalIdentifier (normalIdentifier identifier) = normalIdentifier identifier :=
  rankOf_eq_iff.mp (rankOf_normalIdentifier identifier)

private theorem hasNoLeadingZero_normalIdentifier {identifier : Text}
    (h : isAsciiNumeral (normalIdentifier identifier) = true) : HasNoLeadingZero (normalIdentifier identifier) := by
  rw [← normalIdentifier_normalIdentifier, normalIdentifier, if_pos h]
  exact hasNoLeadingZero_trimZeros _

private theorem all_isAsciiDigit_of_normalIdentifier {identifier : Text}
    (h : (normalIdentifier identifier).all isAsciiDigit = true) : identifier.all isAsciiDigit = true := by
  unfold normalIdentifier at h
  split_ifs at h with hnumeral
  · exact List.all_eq_true.mpr (isAsciiNumeral_iff.mp hnumeral).2
  · exact h

@[simp] theorem normal_canonicalForm (v : Version) : v.normal.canonicalForm = v.canonicalForm := by
  simp [canonicalForm, normal, Function.comp_def]

/-- Versions stand alike in precedence if and only if they are the same in normal form. -/
private theorem precedence_eq_eq_iff_normal {v w : Version} :
    v.precedence w = .eq ↔ v.normal = w.normal := by
  rw [precedence_eq_eq_iff, normal, normal, Version.mk.injEq]

theorem HasShortNumerals.normal {v : Version} (h : v.HasShortNumerals) :
    v.normal.HasShortNumerals := by
  intro identifier hmem hdigits
  obtain ⟨original, horiginal, rfl⟩ := List.mem_map.mp hmem
  have hlength := h original horiginal (all_isAsciiDigit_of_normalIdentifier hdigits)
  exact Nat.le_trans (normalIdentifier_sublist original).length_le hlength

section
variable {v : Version} (wf : v.WellFormed)
include wf

theorem WellFormed.normal : v.normal.WellFormed where
  major_nonneg := wf.major_nonneg
  minor_nonneg := wf.minor_nonneg
  patch_nonneg := wf.patch_nonneg
  identifier_ne_nil := by
    intro identifier hmem
    obtain ⟨original, horiginal, rfl⟩ := List.mem_map.mp hmem
    exact normalIdentifier_ne_nil (wf.identifier_ne_nil original horiginal)
  identifier_point := by
    intro identifier hmem c hc
    obtain ⟨original, horiginal, rfl⟩ := List.mem_map.mp hmem
    exact wf.identifier_point original horiginal c ((normalIdentifier_sublist original).subset hc)

private theorem WellFormed.parts_isStrict : v.normal.parts.IsStrict where
  core := by
    have hnumber {n : Int} (h : 0 ≤ n) : HasNoLeadingZero (ofString (toString n)) := by
      rw [ofString_toString_of_nonneg h]
      exact hasNoLeadingZero_ofString_toString n.toNat
    simp only [List.forall_mem_cons, List.not_mem_nil, false_implies, implies_true, and_true]
    exact ⟨hnumber wf.major_nonneg, hnumber wf.minor_nonneg, hnumber wf.patch_nonneg⟩
  identifier := by
    intro identifier hmem hnumeral
    obtain ⟨original, _, rfl⟩ := List.mem_map.mp hmem
    exact hasNoLeadingZero_normalIdentifier hnumeral
  build := by simp [parts]

private theorem WellFormed.isSemVer_normal : IsSemVer v.normal.text :=
  ⟨v.normal.parts, wf.normal.parts_writes, wf.parts_isStrict⟩

private theorem WellFormed.canonicalForm_text : v.canonicalForm.text = v.normal.text := by
  have hcore : ofString s!"{v.major.toNat}.{v.minor.toNat}.{v.patch.toNat}" = v.normal.coreText := by
    simp only [coreText, Version.normal, ofString_append, ofString_toString_of_nonneg wf.major_nonneg,
      ofString_toString_of_nonneg wf.minor_nonneg, ofString_toString_of_nonneg wf.patch_nonneg]
  rw [CanonicalVersion.text, Version.text, ← hcore]
  by_cases hnil : v.prerelease = []
  · rw [canonicalForm_label_of_nil hnil]
    simp [Version.normal, hnil, labelPart, canonicalForm]
  · rw [wf.label_eq hnil]
    simp [Version.normal, hnil, labelPart, canonicalForm, ofString]

end

section
variable {s t : Text} {v w : Version} (hv : parse s = .ok v)
include hv

private theorem hasShortCore_of_parse : v.parts.HasShortCore := by
  obtain ⟨parts, hwrites, hcore, rfl⟩ := parse_eq_ok_iff.mp hv
  rw [hwrites.1.parts_version]
  exact hcore.bare

private theorem parse_canonicalForm_text : parse v.canonicalForm.text = .ok v.normal := by
  have wf := parse_wellFormed hv
  have hcore := hasShortCore_of_parse hv
  rw [wf.canonicalForm_text]
  exact wf.normal.parse_text hcore

private theorem canonicalForm_text_eq_iff (hw : parse t = .ok w) :
    v.canonicalForm.text = w.canonicalForm.text ↔ v.precedence w = .eq := by
  rw [precedence_eq_eq_iff_normal]
  constructor
  · intro htext
    exact Except.ok.inj ((parse_canonicalForm_text hv).symm.trans (htext ▸ parse_canonicalForm_text hw))
  · intro hnormal
    rw [(parse_wellFormed hv).canonicalForm_text, hnormal, ← (parse_wellFormed hw).canonicalForm_text]

/-- The canonical form of an accepted text, written out, is a semantic version by the strict rules.
It is accepted, has that canonical form again, and stands alike to the text it came from; two
accepted texts come to the same one if and only if they stand alike in precedence. -/
theorem canonical_text_strict (hshort : v.HasShortNumerals) :
    ∃ x, v.canonical = .ok x ∧ IsSemVer x.text ∧ (∃ again, parse x.text = .ok again ∧ again.canonical = .ok x) ∧
      orderTexts x.text s = .ok .eq ∧
      ∀ t w, parse t = .ok w → w.HasShortNumerals →
        ∃ y, w.canonical = .ok y ∧ (x.text = y.text ↔ orderTexts s t = .ok .eq) := by
  have wf := parse_wellFormed hv
  have hread := parse_canonicalForm_text hv
  refine ⟨v.canonicalForm, wf.canonical_eq hshort, ?_, ⟨v.normal, hread, ?_⟩, ?_, ?_⟩
  · rw [wf.canonicalForm_text]
    exact wf.isSemVer_normal
  · rw [wf.normal.canonical_eq hshort.normal, normal_canonicalForm]
  · rw [orderTexts_of_parse hread hv hshort.normal hshort, Except.ok.injEq, precedence_eq_eq_iff_normal]
    simp [normal, Function.comp_def]
  · intro t w hw hwshort
    refine ⟨w.canonicalForm, (parse_wellFormed hw).canonical_eq hwshort, ?_⟩
    rw [orderTexts_of_parse hv hw hshort hwshort, Except.ok.injEq]
    exact canonicalForm_text_eq_iff hv hw

end

/-- Padded numbers lose their zeros in the core and among the identifiers, a hyphen keeps those
after it, and a text without the zeros comes to the same. -/
theorem canonical_text_strict_padded :
    ∃ x, canonical ⟨1, 2, 3, ["rc", "007", "00", "0-0"]⟩ = .ok x ∧ x.text = "1.2.3-rc.7.0.0-0" ∧ IsSemVer x.text ∧
      orderTexts x.text "01.002.3-rc.007.00.0-0+b" = .ok .eq ∧
      orderTexts "01.002.3-rc.007.00.0-0+b" "1.2.3-rc.07.0.0-0" = .ok .eq := by
  have hv : parse "01.002.3-rc.007.00.0-0+b" = .ok ⟨1, 2, 3, ["rc", "007", "00", "0-0"]⟩ := by rfl
  have hw : parse "1.2.3-rc.07.0.0-0" = .ok ⟨1, 2, 3, ["rc", "07", "0", "0-0"]⟩ := by rfl
  have hvshort : HasShortNumerals ⟨1, 2, 3, ["rc", "007", "00", "0-0"]⟩ := by unfold HasShortNumerals; decide
  have hwshort : HasShortNumerals ⟨1, 2, 3, ["rc", "07", "0", "0-0"]⟩ := by unfold HasShortNumerals; decide
  obtain ⟨x, hx, hstrict, _, heq, hsame⟩ := canonical_text_strict hv hvshort
  obtain ⟨y, hy, hiff⟩ := hsame _ _ hw hwshort
  cases hx
  cases hy
  exact ⟨_, rfl, rfl, hstrict, heq, hiff.mp rfl⟩

end Version

end CrateGuard
