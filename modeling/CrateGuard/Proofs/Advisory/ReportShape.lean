import CrateGuard.Proofs.Advisory.Elements

/-! Nothing of a scan output is lost on the way to its report. An output of the wrong shape is
refused and no other is, each element makes a finding however little it tells, and a report tells of
its elements and of nothing else. -/

namespace CrateGuard.AdvisoryReport

def ofCategory (report : AdvisoryReport) : WarningCategory → List AdvisoryWarning
  | .unmaintained => report.unmaintained
  | .unsound => report.unsound
  | .notice => report.notice

/-- What a vulnerability is made of: the ids of the element and of its advisory, and the name and
the version of its package. -/
def vulnerabilityFields (raw : Json) : Json × Json × Json × Json :=
  (raw.member "id", rawId raw, (raw.member "package").member "name", (raw.member "package").member "version")

/-- What a lesser finding is made of: the id of its advisory and the name of its package. -/
def warningFields (raw : Json) : Json × Json :=
  (rawId raw, (raw.member "package").member "name")

/-- Scan outputs whose elements, one by one, give the same to make findings of. -/
structure SameFindings (output other : Json) : Prop where
  vulnerabilities : (rawVulnerabilities output).elements.map vulnerabilityFields =
    (rawVulnerabilities other).elements.map vulnerabilityFields
  warnings : ∀ category, (rawWarnings output category).elements.map warningFields =
    (rawWarnings other category).elements.map warningFields

private theorem ofCategory_reportAt (output : Json) (category : WarningCategory) :
    (reportAt output).ofCategory category = warningsAt output category := by
  cases category <;> rfl

private theorem warningsAt_eq (output : Json) (category : WarningCategory) :
    warningsAt output category = ((rawWarnings output category).elements.map warningFields).map
      fun fields => ⟨category, fields.1.orElse .null, fields.2.orElse .null⟩ := by
  rw [List.map_map]
  rfl

private theorem vulnerabilities_reportAt (output : Json) :
    (reportAt output).vulnerabilities = ((rawVulnerabilities output).elements.map vulnerabilityFields).map
      fun fields => ⟨textOrEmpty (fields.1.orElse fields.2.1), textOrEmpty fields.2.2.1, textOrEmpty fields.2.2.2⟩ := by
  rw [List.map_map]
  rfl

private theorem SameFindings.reportAt_eq {output other : Json} (h : SameFindings output other) :
    reportAt output = reportAt other := by
  have hvulnerabilities : (reportAt output).vulnerabilities = (reportAt other).vulnerabilities := by
    rw [vulnerabilities_reportAt, vulnerabilities_reportAt, h.vulnerabilities]
  have hwarnings (category : WarningCategory) : warningsAt output category = warningsAt other category := by
    rw [warningsAt_eq, warningsAt_eq, h.warnings]
  rw [reportAt, hwarnings, hwarnings, hwarnings]
  exact congrArg (AdvisoryReport.mk · _ _ _) hvulnerabilities

inductive ListAt (output : Json) : String → Json → Prop
  | vulnerabilities : ListAt output "vulnerabilities.list" (rawVulnerabilities output)
  | warnings (category : WarningCategory) : ListAt output ("warnings." ++ category.name) (rawWarnings output category)

inductive SectionAt (output : Json) : String → Json → Prop
  | vulnerabilities : SectionAt output "vulnerabilities" (output.member "vulnerabilities")
  | warnings : SectionAt output "warnings" (output.member "warnings")
  | element {path : String} {list raw : Json} {index : Nat} (hlist : ListAt output path list)
    (hraw : list.elements[index]? = some raw) : SectionAt output s!"{path}[{index}]" raw
  | advisory {path : String} {list raw : Json} {index : Nat} (hlist : ListAt output path list)
    (hraw : list.elements[index]? = some raw) : SectionAt output s!"{path}[{index}].advisory" (raw.member "advisory")
  | package {path : String} {list raw : Json} {index : Nat} (hlist : ListAt output path list)
    (hraw : list.elements[index]? = some raw) : SectionAt output s!"{path}[{index}].package" (raw.member "package")

/-- What can be said against a scan output: that it is no object, or the path of a section or a list
of another shape. -/
inductive Refuses (output : Json) : SourceFault → Prop
  | report (h : ∀ fields, output ≠ .obj fields) : Refuses output .reportNotObject
  | notObject {path : String} {raw : Json} (hat : SectionAt output path raw) (h : ¬raw.IsSection) :
    Refuses output (.fieldNotObject path)
  | notList {path : String} {raw : Json} (hat : ListAt output path raw) (h : ¬raw.IsListing) :
    Refuses output (.fieldNotList path)

section
variable {output : Json} {fault : SourceFault}

private theorem SectionAt.refuses {path : String} {raw : Json} (hat : SectionAt output path raw)
    (h : sectionFields path raw = .error fault) : Refuses output fault := by
  cases raw with
  | null => cases h
  | obj fields => cases h
  | _ =>
    cases h
    exact .notObject hat (by simp [Json.IsSection])

private theorem readElement_refuses {path : String} {list raw : Json} {index : Nat}
    (hlist : ListAt output path list)
    (hraw : list.elements[index]? = some raw) (h : readElement path index raw = .error fault) :
    Refuses output fault := by
  rcases bind_eq_error.mp h with h | ⟨own, hown, h⟩
  · exact (SectionAt.element hlist hraw).refuses h
  obtain ⟨_, rfl⟩ := sectionFields_eq_ok_iff.mp hown
  simp only [Json.field_entries] at h
  rcases bind_eq_error.mp h with h | ⟨advisory, _, h⟩
  · exact (SectionAt.advisory hlist hraw).refuses h
  rcases bind_eq_error.mp h with h | ⟨package, _, h⟩
  · exact (SectionAt.package hlist hraw).refuses h
  · cases h

private theorem readElements_refuses {path : String} {list : Json} (hlist : ListAt output path list)
    (h : Json.readEach (readElement path) 0 list.elements = .error fault) : Refuses output fault := by
  obtain ⟨index, raw, hraw, hfault⟩ := Json.exists_of_readEach_eq_error h
  rw [Nat.zero_add] at hfault
  exact readElement_refuses hlist hraw hfault

private theorem ListAt.refuses {path : String} {list : Json} (hat : ListAt output path list)
    (h : items path list = .error fault) : Refuses output fault := by
  cases list with
  | null => cases h
  | arr values => cases h
  | _ =>
    cases h
    exact .notList hat (by simp [Json.IsListing])

private theorem readWarnings_refuses {category : WarningCategory}
    (h : readWarnings (output.member "warnings").entries category = .error fault) : Refuses output fault := by
  have hat : ListAt output _ (rawWarnings output category) := .warnings category
  simp only [readWarnings, Json.field_entries] at h
  rcases bind_eq_error.mp h with h | ⟨values, hvalues, h⟩
  · exact hat.refuses h
  obtain ⟨_, rfl⟩ := items_eq_ok_iff.mp hvalues
  rcases bind_eq_error.mp h with h | ⟨elements, _, h⟩
  · exact readElements_refuses hat h
  · cases h

/-- A refusal is about a part of the scan output that is misshapen. -/
theorem ofJson_refuses (h : ofJson output = .error fault) : Refuses output fault := by
  cases output with
  | obj fields =>
    rcases bind_eq_error.mp h with h | ⟨vulnerable, hvulnerable, h⟩
    · exact SectionAt.vulnerabilities.refuses h
    obtain ⟨_, rfl⟩ := sectionFields_eq_ok_iff.mp hvulnerable
    rw [Json.field_entries] at h
    rcases bind_eq_error.mp h with h | ⟨values, hvalues, h⟩
    · exact ListAt.vulnerabilities.refuses h
    obtain ⟨_, rfl⟩ := items_eq_ok_iff.mp hvalues
    rcases bind_eq_error.mp h with h | ⟨elements, _, h⟩
    · exact readElements_refuses .vulnerabilities h
    rcases bind_eq_error.mp h with h | ⟨warned, hwarned, h⟩
    · exact SectionAt.warnings.refuses h
    obtain ⟨_, rfl⟩ := sectionFields_eq_ok_iff.mp hwarned
    rcases bind_eq_error.mp h with h | ⟨_, _, h⟩
    · exact readWarnings_refuses h
    rcases bind_eq_error.mp h with h | ⟨_, _, h⟩
    · exact readWarnings_refuses h
    rcases bind_eq_error.mp h with h | ⟨_, _, h⟩
    · exact readWarnings_refuses h
    · cases h
  | _ =>
    cases h
    exact .report nofun

end

private theorem exists_ofJson_eq_error_iff {output : Json} :
    (∃ fault, ofJson output = .error fault) ↔ ¬IsReport output := by
  cases h : ofJson output with
  | error fault =>
    refine iff_of_true ⟨fault, rfl⟩ fun hshape => ?_
    cases h.symm.trans (ofJson_eq_ok_iff.mpr ⟨hshape, rfl⟩)
  | ok report => exact iff_of_false (by simp) (not_not_intro (ofJson_eq_ok_iff.mp h).1)

/-- A scan output is refused if and only if it is no object, or one of its sections or lists, or of
their elements and the advisories and packages of these, is there and of another shape; the refusal
says which. Otherwise each element of a list makes one finding, in its place, even an element that
is null or empty; and any other output of the right shape whose elements give the same to make
findings of makes the same report. -/
theorem ofJson_follows_shape (output : Json) :
    ((∃ fault, ofJson output = .error fault) ↔ ¬IsReport output) ∧
    (∀ fault, ofJson output = .error fault → Refuses output fault) ∧
    ∀ report, ofJson output = .ok report →
      report.vulnerabilities = (rawVulnerabilities output).elements.map vulnerabilityAt ∧
      report.vulnerabilities.length = (rawVulnerabilities output).elements.length ∧
      (∀ category, report.ofCategory category = (rawWarnings output category).elements.map (warningAt category) ∧
        (report.ofCategory category).length = (rawWarnings output category).elements.length) ∧
      ∀ other, IsReport other → SameFindings output other → ofJson other = .ok report := by
  refine ⟨exists_ofJson_eq_error_iff, fun _ => ofJson_refuses, ?_⟩
  intro report h
  obtain ⟨_, rfl⟩ := ofJson_eq_ok_iff.mp h
  refine ⟨rfl, List.length_map _, ?_, ?_⟩
  · intro category
    rw [ofCategory_reportAt]
    exact ⟨rfl, List.length_map _⟩
  · intro other hother hsame
    exact ofJson_eq_ok_iff.mpr ⟨hother, hsame.reportAt_eq⟩

def sparseScan : Json :=
  .obj [("vulnerabilities", .obj [("list", .arr [.null, .obj []])]), ("warnings", .obj [("notice", .arr [.null])])]

def decoratedScan : Json :=
  .obj [("lockfile", .int 1),
    ("warnings", .obj [("yanked", .bool true), ("notice", .arr [.obj [("kind", .str "notice"), ("package", .null)]])]),
    ("vulnerabilities", .obj [("found", .bool false), ("list", .arr [.obj [("title", .str "none")], .null])])]

/-- Each of them counts as two vulnerabilities and one lesser finding. -/
theorem ofJson_follows_shape_sparse :
    ofJson sparseScan =
        .ok ⟨[⟨.str [], .str [], .str []⟩, ⟨.str [], .str [], .str []⟩], [], [], [⟨.notice, .null, .null⟩]⟩ ∧
      ofJson decoratedScan = ofJson sparseScan := by
  have haccepted : ofJson sparseScan =
      .ok ⟨[⟨.str [], .str [], .str []⟩, ⟨.str [], .str [], .str []⟩], [], [], [⟨.notice, .null, .null⟩]⟩ := by rfl
  have hother : IsReport decoratedScan := by
    have hnull : IsElement .null := ⟨.inl rfl, .inl rfl, .inl rfl⟩
    have habsent : IsFindings .null := ⟨.inl rfl, by nofun⟩
    refine ⟨⟨_, rfl⟩, .inr ⟨_, rfl⟩, ⟨.inr ⟨_, rfl⟩, ?_⟩, .inr ⟨_, rfl⟩, ?_⟩
    · refine List.forall_mem_cons.mpr ⟨⟨.inr ⟨_, rfl⟩, .inl rfl, .inl rfl⟩, List.forall_mem_singleton.mpr hnull⟩
    · rintro (_ | _ | _)
      · exact habsent
      · exact habsent
      · exact ⟨.inr ⟨_, rfl⟩, List.forall_mem_singleton.mpr ⟨.inr ⟨_, rfl⟩, .inl rfl, .inl rfl⟩⟩
  have hsame : SameFindings sparseScan decoratedScan := by
    refine ⟨rfl, ?_⟩
    rintro (_ | _ | _) <;> rfl
  obtain ⟨_, _, hmakes⟩ := ofJson_follows_shape sparseScan
  obtain ⟨_, _, _, hagain⟩ := hmakes _ haccepted
  exact ⟨haccepted, (hagain _ hother hsame).trans haccepted.symm⟩

end CrateGuard.AdvisoryReport
