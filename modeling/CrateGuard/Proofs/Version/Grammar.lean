import CrateGuard.Proofs.Text.Numerals
import CrateGuard.Proofs.Text.Separation
import CrateGuard.Version.Parser

/-! The grammar of version texts. A text is written from three rows of digits with points between
them, from identifiers after a hyphen and from build metadata after a plus. The reader takes it
apart again, and there is no second way to do so, since no part can be carried on by what follows
it. -/

namespace CrateGuard.Version
open Text

@[ext]
structure Parts where
  major : Text
  minor : Text
  patch : Text
  /-- The identifiers of the prerelease part; none if there is no such part. -/
  identifiers : List Text
  /-- The build metadata without their plus, if there are any. -/
  build : Option Text

def IsIdentifier (s : Text) : Prop :=
  s ≠ [] ∧ ∀ c ∈ s, c.isAlphanum = true ∨ c = '-'

def labelPart : Option Text → Text
  | none => []
  | some label => .char '-' :: label

def buildPart : Option Text → Text
  | none => []
  | some build => .char '+' :: build

private theorem buildPart_inj {build other : Option Text} : buildPart build = buildPart other ↔
    build = other := by
  cases build <;> cases other <;> simp [buildPart]

namespace Parts

def label (parts : Parts) : Option Text :=
  match parts.identifiers with
  | [] => none
  | first :: rest => some (join '.' (first :: rest))

def text (parts : Parts) : Text :=
  parts.major ++ .char '.' :: (parts.minor ++ .char '.' ::
    (parts.patch ++ (labelPart parts.label ++ buildPart parts.build)))

/-- What the grammar asks of the parts: rows of ASCII digits, identifiers, and build metadata in one
line. -/
structure WellFormed (parts : Parts) : Prop where
  major : isAsciiNumeral parts.major = true
  minor : isAsciiNumeral parts.minor = true
  patch : isAsciiNumeral parts.patch = true
  identifier : ∀ identifier ∈ parts.identifiers, IsIdentifier identifier
  build : ∀ build ∈ parts.build, .char '\n' ∉ build

/-- A text is written from the parts by the grammar. -/
def Writes (parts : Parts) (s : Text) : Prop :=
  parts.WellFormed ∧ parts.text = s

/-- The version that the parts stand for: the numbers in decimal and the identifiers as they are. -/
def version (parts : Parts) : Version :=
  ⟨asciiValue parts.major, asciiValue parts.minor, asciiValue parts.patch, parts.identifiers⟩

/-- No core number is longer than the longest numeral that is read. -/
def HasShortCore (parts : Parts) : Prop :=
  ∀ run ∈ [parts.major, parts.minor, parts.patch], run.length ≤ digitLimit

def shape (parts : Parts) : Shape :=
  ⟨parts.major, parts.minor, parts.patch, parts.label⟩

end Parts

private theorem isLabelPoint_and_ne_iff {c : CodePoint} :
    isLabelPoint c = true ∧ c ≠ '.' ↔ c.isAlphanum = true ∨ c = '-' := by
  simp only [isLabelPoint, Bool.or_eq_true, beq_iff_eq]
  constructor
  · rintro ⟨(halphanum | hhyphen) | hpoint, hne⟩
    · exact .inl halphanum
    · exact .inr hhyphen
    · exact absurd hpoint hne
  · rintro (halphanum | rfl)
    · refine ⟨.inl (.inl halphanum), ?_⟩
      rintro rfl
      revert halphanum
      decide
    · decide

theorem isIdentifier_iff {s : Text} : IsIdentifier s ↔ s ≠ [] ∧ ∀ c ∈ s, isLabelPoint c = true ∧
    c ≠ '.' :=
  and_congr_right fun _ => forall₂_congr fun _ _ => isLabelPoint_and_ne_iff.symm

section
variable {p : CodePoint → Bool} {s rest : Text} (hs : ∀ c ∈ s, p c = true) (hrest : ∀ c ∈ rest.head?, p c = false)
include hs hrest

private theorem takeWhile_append_stop : (s ++ rest).takeWhile p = s := by
  rw [List.takeWhile_append_of_pos hs]
  cases rest with
  | nil => exact List.append_nil s
  | cons c later => rw [List.takeWhile_cons_of_neg (by simp [hrest c rfl]), List.append_nil]

private theorem dropWhile_append_stop : (s ++ rest).dropWhile p = rest := by
  rw [List.dropWhile_append_of_pos hs]
  cases rest with
  | nil => rfl
  | cons c later => rw [List.dropWhile_cons_of_neg (by simp [hrest c rfl])]

end

private theorem head?_dropWhile_false {p : CodePoint → Bool} {s : Text} :
    ∀ c ∈ (s.dropWhile p).head?, p c = false := by
  intro c hc
  have hstop := List.head?_dropWhile_not p s
  rw [hc] at hstop
  exact hstop

private theorem takeNumeral_eq_some_iff {s digits rest : Text} :
    takeNumeral s = some (digits, rest) ↔
    isAsciiNumeral digits = true ∧ (∀ c ∈ rest.head?, isAsciiDigit c = false) ∧ s = digits ++ rest := by
  constructor
  · intro h
    unfold takeNumeral at h
    dsimp only at h
    split_ifs at h with hempty
    cases h
    refine ⟨?_, head?_dropWhile_false, List.takeWhile_append_dropWhile.symm⟩
    rw [isAsciiNumeral, List.all_takeWhile, Bool.and_true]
    simpa using hempty
  · rintro ⟨hdigits, hrest, rfl⟩
    obtain ⟨hne, hall⟩ := isAsciiNumeral_iff.mp hdigits
    rw [takeNumeral, takeWhile_append_stop hall hrest, dropWhile_append_stop hall hrest]
    simp [hne]

private theorem takeDotted_eq_some_iff {s digits rest : Text} : takeDotted s = some (digits, rest) ↔
    isAsciiNumeral digits = true ∧ s = digits ++ .char '.' :: rest := by
  constructor
  · intro h
    unfold takeDotted at h
    split at h
    · rename_i hnumeral
      cases h
      obtain ⟨hdigits, _, hs⟩ := takeNumeral_eq_some_iff.mp hnumeral
      exact ⟨hdigits, hs⟩
    · cases h
  · rintro ⟨hdigits, rfl⟩
    have hpoint : ∀ c ∈ (CodePoint.char '.' :: rest).head?, isAsciiDigit c = false := by
      rintro _ ⟨⟩
      decide
    have hnumeral := takeNumeral_eq_some_iff.mpr ⟨hdigits, hpoint, rfl⟩
    rw [takeDotted, hnumeral]
    rfl

private theorem isBuildOrEnd_iff {s : Text} :
    isBuildOrEnd s = true ↔ ∃ build : Option Text, (∀ b ∈ build, .char '\n' ∉ b) ∧ s = buildPart build := by
  constructor
  · intro h
    unfold isBuildOrEnd at h
    split at h
    · exact ⟨none, by simp, rfl⟩
    · rename_i build
      exact ⟨some build, by simpa using h, rfl⟩
    · cases h
  · rintro ⟨build, hbuild, rfl⟩
    cases build with
    | none => rfl
    | some build => simpa [isBuildOrEnd, buildPart] using hbuild

/-- Build metadata start with a plus, which is neither a digit nor a point of a prerelease part. -/
private theorem head?_of_isBuildOrEnd {s : Text} (h : isBuildOrEnd s = true) :
    ∀ c ∈ s.head?, c = '+' := by
  obtain ⟨build, _, rfl⟩ := isBuildOrEnd_iff.mp h
  cases build with
  | none => simp [buildPart]
  | some build => simp [buildPart]

private theorem labelOf_eq_some_iff {s : Text} {label : Option Text} : labelOf s = some label ↔
    (∀ l ∈ label, l ≠ [] ∧ ∀ c ∈ l, isLabelPoint c = true) ∧
      ∃ tail, isBuildOrEnd tail = true ∧ s = labelPart label ++ tail := by
  constructor
  · intro h
    unfold labelOf at h
    split at h
    · rename_i rest
      dsimp only at h
      split_ifs at h with hrest
      cases h
      rw [Bool.and_eq_true] at hrest
      refine ⟨?_, _, hrest.2, ?_⟩
      · rintro _ ⟨⟩
        exact ⟨by simpa using hrest.1, List.all_eq_true.mp List.all_takeWhile⟩
      · rw [labelPart, List.cons_append, List.takeWhile_append_dropWhile]
    · split_ifs at h with hrest
      cases h
      exact ⟨by simp, s, hrest, rfl⟩
  · rintro ⟨hlabel, tail, htail, rfl⟩
    have hplus := head?_of_isBuildOrEnd htail
    cases label with
    | none =>
      rw [labelPart, List.nil_append, labelOf]
      · rw [if_pos htail]
      · rintro rest rfl
        cases hplus _ rfl
    | some label =>
      obtain ⟨hne, hpoints⟩ := hlabel label rfl
      have hstop : ∀ c ∈ tail.head?, isLabelPoint c = false := by
        intro c hc
        rw [hplus c hc]
        decide
      rw [labelPart, List.cons_append, labelOf, takeWhile_append_stop hpoints hstop,
        dropWhile_append_stop hpoints hstop]
      simp [hne, htail]

/-- The parts that the reader looks for are found in a text exactly if it is written from them. -/
private theorem shape?_eq_some_iff {s : Text} {shape : Shape} : shape? s = some shape ↔
    (∀ run ∈ [shape.major, shape.minor, shape.patch], isAsciiNumeral run = true) ∧
      (∀ label ∈ shape.label, label ≠ [] ∧ ∀ c ∈ label, isLabelPoint c = true) ∧
      ∃ tail, isBuildOrEnd tail = true ∧ s = shape.major ++ .char '.' :: (shape.minor ++ .char '.' ::
        (shape.patch ++ (labelPart shape.label ++ tail))) := by
  simp only [List.forall_mem_cons, List.not_mem_nil, false_implies, implies_true, and_true, and_assoc]
  constructor
  · intro h
    obtain ⟨⟨major, afterMajor⟩, hmajor, h⟩ := Option.bind_eq_some_iff.mp h
    obtain ⟨⟨minor, afterMinor⟩, hminor, h⟩ := Option.bind_eq_some_iff.mp h
    obtain ⟨⟨patch, afterPatch⟩, hpatch, h⟩ := Option.bind_eq_some_iff.mp h
    obtain ⟨label, hlabel, h⟩ := Option.bind_eq_some_iff.mp h
    cases h
    obtain ⟨hmajorDigits, rfl⟩ := takeDotted_eq_some_iff.mp hmajor
    obtain ⟨hminorDigits, rfl⟩ := takeDotted_eq_some_iff.mp hminor
    obtain ⟨hpatchDigits, _, rfl⟩ := takeNumeral_eq_some_iff.mp hpatch
    obtain ⟨hpoints, tail, htail, rfl⟩ := labelOf_eq_some_iff.mp hlabel
    exact ⟨hmajorDigits, hminorDigits, hpatchDigits, hpoints, tail, htail, rfl⟩
  · rintro ⟨hmajor, hminor, hpatch, hpoints, tail, htail, rfl⟩
    have hstop : ∀ c ∈ (labelPart shape.label ++ tail).head?, isAsciiDigit c = false := by
      intro c hc
      cases hlabel : shape.label with
      | none =>
        rw [hlabel, labelPart, List.nil_append] at hc
        rw [head?_of_isBuildOrEnd htail c hc]
        decide
      | some label =>
        rw [hlabel] at hc
        cases hc
        decide
    refine Option.bind_eq_some_iff.mpr ⟨_, takeDotted_eq_some_iff.mpr ⟨hmajor, rfl⟩, ?_⟩
    refine Option.bind_eq_some_iff.mpr ⟨_, takeDotted_eq_some_iff.mpr ⟨hminor, rfl⟩, ?_⟩
    refine Option.bind_eq_some_iff.mpr ⟨_, takeNumeral_eq_some_iff.mpr ⟨hpatch, hstop, rfl⟩, ?_⟩
    exact Option.bind_eq_some_iff.mpr ⟨_, labelOf_eq_some_iff.mpr ⟨hpoints, tail, htail, rfl⟩, rfl⟩

private theorem isLabelPoint_of_mem_join {identifiers : List Text}
    (h : ∀ identifier ∈ identifiers, IsIdentifier identifier) :
    ∀ c ∈ join '.' identifiers, isLabelPoint c = true := by
  induction identifiers using join.induct with
  | case1 => simp [join]
  | case2 only =>
    intro c hc
    exact ((isIdentifier_iff.mp (h only List.mem_cons_self)).2 c hc).1
  | case3 first rest hrest ih =>
    intro c hc
    rw [join] at hc
    · rcases List.mem_append.mp hc with hfirst | hlater
      · exact ((isIdentifier_iff.mp (h first List.mem_cons_self)).2 c hfirst).1
      · rcases List.mem_cons.mp hlater with rfl | hlater
        · decide
        · exact ih (fun identifier hmem => h identifier (List.mem_cons_of_mem _ hmem)) c hlater
    · exact hrest

namespace Parts
variable {parts other : Parts} {s : Text}

theorem label_of_ne_nil (h : parts.identifiers ≠ []) :
    parts.label = some (join '.' parts.identifiers) := by
  obtain ⟨first, rest, hcons⟩ := List.exists_cons_of_ne_nil h
  rw [label, hcons]

private theorem WellFormed.identifiersOf_label (wf : parts.WellFormed) :
    identifiersOf parts.label = parts.identifiers := by
  by_cases h : parts.identifiers = []
  · rw [label, h, identifiersOf]
  · rw [label_of_ne_nil h, identifiersOf]
    apply split_join h
    intro identifier hmem hpoint
    exact ((isIdentifier_iff.mp (wf.identifier identifier hmem)).2 _ hpoint).2 rfl

theorem WellFormed.label_points (wf : parts.WellFormed) :
    ∀ label ∈ parts.label, label ≠ [] ∧ ∀ c ∈ label, isLabelPoint c = true := by
  obtain ⟨_, _, _, identifiers, _⟩ := parts
  cases identifiers with
  | nil => simp [label]
  | cons first rest =>
    rintro _ ⟨⟩
    exact ⟨join_ne_nil (wf.identifier first List.mem_cons_self).1 rest, isLabelPoint_of_mem_join wf.identifier⟩

private theorem Writes.shape?_eq (h : parts.Writes s) : shape? s = some parts.shape := by
  obtain ⟨wf, rfl⟩ := h
  rw [shape?_eq_some_iff]
  refine ⟨?_, wf.label_points, buildPart parts.build, isBuildOrEnd_iff.mpr ⟨_, wf.build, rfl⟩, rfl⟩
  simp [shape, wf.major, wf.minor, wf.patch]

/-- A text is written in one way only. -/
theorem Writes.unique (h : parts.Writes s) (hother : other.Writes s) : parts = other := by
  have hshape : parts.shape = other.shape := Option.some.inj (h.shape?_eq.symm.trans hother.shape?_eq)
  obtain ⟨hmajor, hminor, hpatch, hlabel⟩ := Shape.mk.inj hshape
  have hidentifiers : parts.identifiers = other.identifiers := by
    rw [← h.1.identifiersOf_label, hlabel, hother.1.identifiersOf_label]
  have hbuild : parts.build = other.build := by
    have htext : parts.text = other.text := h.2.trans hother.2.symm
    rw [text, text, hmajor, hminor, hpatch, hlabel] at htext
    simpa [buildPart_inj] using htext
  exact Parts.ext hmajor hminor hpatch hidentifiers hbuild

end Parts

private theorem exists_parts {s : Text} {shape : Shape} (h : shape? s = some shape)
    (hne : ∀ identifier ∈ identifiersOf shape.label, identifier ≠ []) :
    ∃ parts : Parts, parts.Writes s ∧ parts.shape = shape := by
  obtain ⟨hruns, hpoints, tail, htail, rfl⟩ := shape?_eq_some_iff.mp h
  obtain ⟨build, hbuild, rfl⟩ := isBuildOrEnd_iff.mp htail
  obtain ⟨major, minor, patch, label⟩ := shape
  simp only [List.forall_mem_cons, List.not_mem_nil, false_implies, implies_true, and_true] at hruns
  obtain ⟨hmajor, hminor, hpatch⟩ := hruns
  have hlabel : Parts.label ⟨major, minor, patch, identifiersOf label, build⟩ = label := by
    cases label with
    | none => rfl
    | some label => rw [Parts.label_of_ne_nil (split_ne_nil '.' label), identifiersOf, join_split]
  have hidentifiers : ∀ identifier ∈ identifiersOf label, IsIdentifier identifier := by
    intro identifier hmem
    refine isIdentifier_iff.mpr ⟨hne identifier hmem, ?_⟩
    cases label with
    | none => cases hmem
    | some label =>
      intro c hc
      refine ⟨(hpoints label rfl).2 c ((infix_of_mem_split hmem).subset hc), ?_⟩
      rintro rfl
      exact not_mem_of_mem_split hmem hc
  refine ⟨⟨major, minor, patch, identifiersOf label, build⟩, ⟨⟨hmajor, hminor, hpatch, hidentifiers, hbuild⟩, ?_⟩, ?_⟩
  · rw [Parts.text, hlabel]
  · rw [Parts.shape, hlabel]

section
variable {parts : Parts} {s : Text}

private theorem Parts.any_long_iff :
    ([parts.major, parts.minor, parts.patch].any fun run => digitLimit < run.length) = true ↔ ¬parts.HasShortCore := by
  simp only [HasShortCore, List.any_eq_true, decide_eq_true_eq, Classical.not_forall, Nat.not_le, exists_prop]

/-- A text of the grammar is read unless a core number is too long. -/
theorem Parts.Writes.parse_eq (h : parts.Writes s) :
    parse s = if ([parts.major, parts.minor, parts.patch].any fun run => digitLimit < run.length) then
      .error .longNumeral else .ok parts.version := by
  have hne : ¬parts.identifiers.any List.isEmpty = true := by
    rw [List.any_eq_true]
    rintro ⟨identifier, hmem, hempty⟩
    exact (h.1.identifier identifier hmem).1 (List.isEmpty_iff.mp hempty)
  rw [parse, h.shape?_eq]
  simp only [Parts.shape, h.1.identifiersOf_label, if_neg hne, Parts.version]

theorem Parts.Writes.parse_eq_ok (h : parts.Writes s) (hcore : parts.HasShortCore) :
    parse s = .ok parts.version := by
  rw [h.parse_eq, if_neg (mt Parts.any_long_iff.mp (not_not_intro hcore))]

theorem Parts.Writes.parse_eq_longNumeral (h : parts.Writes s) (hcore : ¬parts.HasShortCore) :
    parse s = .error .longNumeral := by
  rw [h.parse_eq, if_pos (Parts.any_long_iff.mpr hcore)]

/-- A text that is not of the grammar is refused. -/
theorem parse_refused (h : ∀ parts : Parts, ¬parts.Writes s) :
    ∃ refusal, parse s = .error (.refused refusal) := by
  unfold parse
  split
  · exact ⟨_, rfl⟩
  · rename_i shape hshape
    dsimp only
    split_ifs with hempty
    · exact ⟨_, rfl⟩
    all_goals
      exfalso
      obtain ⟨parts, hwrites, _⟩ := exists_parts hshape fun identifier hmem hnil =>
        hempty (List.any_eq_true.mpr ⟨identifier, hmem, List.isEmpty_iff.mpr hnil⟩)
      exact h parts hwrites

/-- A text is read exactly if it is of the grammar and its core numbers are not too long, as the
version that its parts stand for. -/
theorem parse_eq_ok_iff {v : Version} :
    parse s = .ok v ↔ ∃ parts : Parts, parts.Writes s ∧ parts.HasShortCore ∧ parts.version = v := by
  constructor
  · intro h
    by_cases hgrammar : ∃ parts : Parts, parts.Writes s
    · obtain ⟨parts, hwrites⟩ := hgrammar
      by_cases hcore : parts.HasShortCore
      · exact ⟨parts, hwrites, hcore, Except.ok.inj ((hwrites.parse_eq_ok hcore).symm.trans h)⟩
      · cases (hwrites.parse_eq_longNumeral hcore).symm.trans h
    · obtain ⟨refusal, hrefused⟩ := parse_refused (not_exists.mp hgrammar)
      cases hrefused.symm.trans h
  · rintro ⟨parts, hwrites, hcore, rfl⟩
    exact hwrites.parse_eq_ok hcore

end

end CrateGuard.Version
