import CrateGuard.Proofs.Version.Grammar

/-! What a version that is read promises. Its core numbers are not negative, and its identifiers are
rows of letters, digits and hyphens, none empty. A text whose rows of digits are short is read or
refused, and never at fault for a numeral. -/

namespace CrateGuard.Version
open Text

structure WellFormed (v : Version) : Prop where
  major_nonneg : 0 ≤ v.major
  minor_nonneg : 0 ≤ v.minor
  patch_nonneg : 0 ≤ v.patch
  identifier_ne_nil : ∀ identifier ∈ v.prerelease, identifier ≠ []
  identifier_point : ∀ identifier ∈ v.prerelease, ∀ c ∈ identifier, isLabelPoint c = true ∧ c ≠ '.'

/-- No identifier made of digits is longer than the longest numeral that is read. -/
def HasShortNumerals (v : Version) : Prop :=
  ∀ identifier ∈ v.prerelease, identifier.all Text.isAsciiDigit = true →
    identifier.length ≤ Text.digitLimit

/-- No row of digits in a text is longer than the longest numeral that is read. -/
def HasShortRuns (s : Text) : Prop :=
  ∀ run, run <:+: s → run.all Text.isAsciiDigit = true → run.length ≤ Text.digitLimit

/-- A text that is refused, or read as a version whose identifiers can be compared. Any other text
is at fault for a numeral. -/
def IsDecided (s : Text) : Prop :=
  (∃ v, parse s = .ok v ∧ v.HasShortNumerals) ∨ ∃ refusal, parse s = .error (.refused refusal)

theorem hasShortRuns_of_length {s : Text} (h : s.length ≤ Text.digitLimit) : HasShortRuns s :=
  fun _ hrun _ => Nat.le_trans hrun.length_le h

private theorem Parts.Writes.version_wellFormed {parts : Parts} {s : Text} (h : parts.Writes s) :
    parts.version.WellFormed where
  major_nonneg := Int.natCast_nonneg _
  minor_nonneg := Int.natCast_nonneg _
  patch_nonneg := Int.natCast_nonneg _
  identifier_ne_nil identifier hmem := (h.1.identifier identifier hmem).1
  identifier_point identifier hmem := (isIdentifier_iff.mp (h.1.identifier identifier hmem)).2

theorem parse_wellFormed {s : Text} {v : Version} (h : parse s = .ok v) : v.WellFormed := by
  obtain ⟨parts, hwrites, _, rfl⟩ := parse_eq_ok_iff.mp h
  exact hwrites.version_wellFormed

private theorem Parts.run_infix_text (parts : Parts) :
    ∀ run ∈ [parts.major, parts.minor, parts.patch], run <:+: parts.text := by
  have hpatch : parts.patch <:+: parts.text :=
    ⟨parts.major ++ .char '.' :: (parts.minor ++ [.char '.']), labelPart parts.label ++ buildPart parts.build,
      by simp [text]⟩
  have hminor : parts.minor <:+: parts.text :=
    ⟨parts.major ++ [.char '.'], .char '.' :: (parts.patch ++ (labelPart parts.label ++ buildPart parts.build)),
      by simp [text]⟩
  simp only [List.forall_mem_cons, List.not_mem_nil, false_implies, implies_true, and_true]
  exact ⟨(List.prefix_append _ _).isInfix, hminor, hpatch⟩

private theorem Parts.identifier_infix_text {parts : Parts} {identifier : Text}
    (h : identifier ∈ parts.identifiers) :
    identifier <:+: parts.text := by
  have hjoin : join '.' parts.identifiers <:+: parts.text := by
    refine ⟨parts.major ++ .char '.' :: (parts.minor ++ .char '.' :: (parts.patch ++ [.char '-'])),
      buildPart parts.build, ?_⟩
    simp [text, label_of_ne_nil (List.ne_nil_of_mem h), labelPart]
  exact (infix_join_of_mem h).trans hjoin

private theorem HasShortRuns.hasShortCore {s : Text} (hs : HasShortRuns s) {parts : Parts}
    (h : parts.Writes s) :
    parts.HasShortCore := by
  have hruns : ∀ run ∈ [parts.major, parts.minor, parts.patch], isAsciiNumeral run = true := by
    simp [h.1.major, h.1.minor, h.1.patch]
  intro run hrun
  have hdigits := List.all_eq_true.mpr (isAsciiNumeral_iff.mp (hruns run hrun)).2
  exact hs run (h.2 ▸ parts.run_infix_text run hrun) hdigits

/-- A text whose rows of digits are short is read or refused. -/
theorem HasShortRuns.isDecided {s : Text} (hs : HasShortRuns s) : IsDecided s := by
  by_cases hgrammar : ∃ parts : Parts, parts.Writes s
  · obtain ⟨parts, hwrites⟩ := hgrammar
    refine .inl ⟨parts.version, hwrites.parse_eq_ok (hs.hasShortCore hwrites), ?_⟩
    intro identifier hmem hdigits
    exact hs identifier (hwrites.2 ▸ Parts.identifier_infix_text hmem) hdigits
  · exact .inr (parse_refused (not_exists.mp hgrammar))

/-- A text without long rows of digits is read if and only if it is of the grammar, and there is one
way to take it apart. What is read are the decimal values of the core numbers, and the identifiers
as they stand; every other such text is refused. -/
theorem parse_follows_grammar {s : Text} (hs : HasShortRuns s) :
    ((∃ v, parse s = .ok v) ↔ ∃ parts : Parts, parts.Writes s) ∧
      (∀ parts other : Parts, parts.Writes s → other.Writes s → parts = other) ∧
      (∀ parts : Parts, parts.Writes s → parse s = .ok parts.version) ∧
      ((∀ parts : Parts, ¬parts.Writes s) → ∃ refusal, parse s = .error (.refused refusal)) := by
  have hread : ∀ parts : Parts, parts.Writes s → parse s = .ok parts.version := fun parts hwrites =>
    hwrites.parse_eq_ok (hs.hasShortCore hwrites)
  refine ⟨?_, fun _ _ => Parts.Writes.unique, hread, parse_refused⟩
  constructor
  · rintro ⟨v, hv⟩
    obtain ⟨parts, hwrites, _⟩ := parse_eq_ok_iff.mp hv
    exact ⟨parts, hwrites⟩
  · rintro ⟨parts, hwrites⟩
    exact ⟨parts.version, hread parts hwrites⟩

/-- Hyphens and zeros in the prerelease part and a second plus are taken as they stand; an empty
identifier is refused. -/
theorem parse_follows_grammar_hyphenated :
    Parts.Writes ⟨"01", "2", "3", ["a-b", "00", "-"], some "x+y"⟩ "01.2.3-a-b.00.-+x+y" ∧
      parse "01.2.3-a-b.00.-+x+y" = .ok ⟨1, 2, 3, ["a-b", "00", "-"]⟩ ∧
      ∃ refusal, parse "1.0.0-a..b" = .error (.refused refusal) := by
  have hwrites : Parts.Writes ⟨"01", "2", "3", ["a-b", "00", "-"], some "x+y"⟩ "01.2.3-a-b.00.-+x+y" := by
    refine ⟨⟨by decide, by decide, by decide, ?_, ?_⟩, rfl⟩
    · unfold IsIdentifier
      decide
    · decide
  obtain ⟨_, _, hread, _⟩ := parse_follows_grammar (hasShortRuns_of_length (s := "01.2.3-a-b.00.-+x+y") (by decide))
  obtain ⟨hgrammar, _, _, hrefused⟩ := parse_follows_grammar (hasShortRuns_of_length (s := "1.0.0-a..b") (by decide))
  refine ⟨hwrites, hread _ hwrites, hrefused fun parts hparts => ?_⟩
  obtain ⟨v, hv⟩ := hgrammar.mpr ⟨parts, hparts⟩
  cases hv

private theorem lineFeed_not_mem_of_isAsciiNumeral {digits : Text}
    (h : isAsciiNumeral digits = true) :
    .char '\n' ∉ digits := by
  intro hmem
  cases (isAsciiNumeral_iff.mp h).2 _ hmem

/-- A version is written in one line, build metadata included. -/
theorem lineFeed_not_mem_of_parse {s : Text} {v : Version} (h : parse s = .ok v) :
    .char '\n' ∉ s := by
  obtain ⟨parts, ⟨wf, rfl⟩, _⟩ := parse_eq_ok_iff.mp h
  have hmajor := lineFeed_not_mem_of_isAsciiNumeral wf.major
  have hminor := lineFeed_not_mem_of_isAsciiNumeral wf.minor
  have hpatch := lineFeed_not_mem_of_isAsciiNumeral wf.patch
  have hlabel : .char '\n' ∉ labelPart parts.label := by
    cases hlabel : parts.label with
    | none => exact List.not_mem_nil
    | some label =>
      rw [labelPart, List.mem_cons]
      rintro (hhyphen | hpoint)
      · cases hhyphen
      · cases (wf.label_points label hlabel).2 _ hpoint
  have hbuild : .char '\n' ∉ buildPart parts.build := by
    cases hbuild : parts.build with
    | none => exact List.not_mem_nil
    | some build =>
      rw [buildPart, List.mem_cons]
      rintro (hplus | hmem)
      · cases hplus
      · exact wf.build build hbuild hmem
  simp [Parts.text, hmajor, hminor, hpatch, hlabel, hbuild]

/-- A core number that is too long is neither read nor refused. -/
theorem parse_of_long_major {digits : Text} (hdigits : ∀ c ∈ digits, isAsciiDigit c = true)
    (hlong : digitLimit < digits.length) : parse (digits ++ ".0.0") = .error .longNumeral := by
  have hne : digits ≠ [] := by
    rintro rfl
    cases hlong
  have hzero : isAsciiNumeral "0" = true := by decide
  have hwrites : Parts.Writes ⟨digits, "0", "0", [], none⟩ (digits ++ ".0.0") :=
    ⟨⟨isAsciiNumeral_iff.mpr ⟨hne, hdigits⟩, hzero, hzero, by simp, by simp⟩, rfl⟩
  apply hwrites.parse_eq_longNumeral
  intro hcore
  exact Nat.not_le.mpr hlong (hcore digits List.mem_cons_self)

end CrateGuard.Version
