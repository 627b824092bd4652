import CrateGuard.Advisory.Report
import CrateGuard.Proofs.Json.Views
import CrateGuard.Proofs.Run

/-! The shape of a scan output and the report that it makes. Its sections are null or objects and
its lists null or lists, and their elements are null or objects with sections for the advisory and
the package. Then each element makes one vulnerability or lesser finding. -/

namespace CrateGuard.AdvisoryReport

def rawVulnerabilities (output : Json) : Json :=
  (output.member "vulnerabilities").member "list"

def rawWarnings (output : Json) (category : WarningCategory) : Json :=
  (output.member "warnings").member category.name

def rawId (element : Json) : Json :=
  (element.member "advisory").member "id"

structure IsElement (raw : Json) : Prop where
  own : raw.IsSection
  advisory : (raw.member "advisory").IsSection
  package : (raw.member "package").IsSection

structure IsFindings (raw : Json) : Prop where
  listing : raw.IsListing
  elements : ∀ element ∈ raw.elements, IsElement element

structure IsReport (output : Json) : Prop where
  object : ∃ fields, output = .obj fields
  vulnerable : (output.member "vulnerabilities").IsSection
  vulnerabilities : IsFindings (rawVulnerabilities output)
  warned : (output.member "warnings").IsSection
  warnings : ∀ category, IsFindings (rawWarnings output category)

def vulnerabilityAt (raw : Json) : Vulnerability :=
  ⟨textOrEmpty ((raw.member "id").orElse (rawId raw)), textOrEmpty ((raw.member "package").member "name"),
    textOrEmpty ((raw.member "package").member "version")⟩

def warningAt (category : WarningCategory) (raw : Json) : AdvisoryWarning :=
  ⟨category, (rawId raw).orElse .null, ((raw.member "package").member "name").orElse .null⟩

def warningsAt (output : Json) (category : WarningCategory) : List AdvisoryWarning :=
  (rawWarnings output category).elements.map (warningAt category)

def reportAt (output : Json) : AdvisoryReport :=
  ⟨(rawVulnerabilities output).elements.map vulnerabilityAt, warningsAt output .unmaintained,
    warningsAt output .unsound, warningsAt output .notice⟩

def elementAt (raw : Json) : Element :=
  ⟨raw.entries, (raw.member "advisory").entries, (raw.member "package").entries⟩

private theorem vulnerabilityOf_elementAt (raw : Json) :
    vulnerabilityOf (elementAt raw) = vulnerabilityAt raw := by
  simp only [vulnerabilityOf, elementAt, Json.field_entries]
  rfl

private theorem warningOf_elementAt (category : WarningCategory) (raw : Json) :
    warningOf category (elementAt raw) = warningAt category raw := by
  simp only [warningOf, elementAt, Json.field_entries]
  rfl

theorem sectionFields_eq_ok_iff {label : String} {raw : Json} {fields : Json.Fields} :
    sectionFields label raw = .ok fields ↔ raw.IsSection ∧ fields = raw.entries := by
  cases raw <;> simp [sectionFields, Json.IsSection, Json.entries, eq_comm]

theorem items_eq_ok_iff {label : String} {raw : Json} {values : List Json} :
    items label raw = .ok values ↔ raw.IsListing ∧ values = raw.elements := by
  cases raw <;> simp [items, Json.IsListing, Json.elements, eq_comm]

private theorem readElement_eq_ok_iff (label : String) (index : Nat) (raw : Json)
    (element : Element) :
    readElement label index raw = .ok element ↔ IsElement raw ∧ element = elementAt raw := by
  simp only [readElement, bind_eq_ok, sectionFields_eq_ok_iff]
  constructor
  · rintro ⟨_, ⟨hown, rfl⟩, _, ⟨hadvisory, rfl⟩, _, ⟨hpackage, rfl⟩, hmade⟩
    rw [Json.field_entries] at hadvisory hpackage
    cases hmade
    simp only [Json.field_entries]
    exact ⟨⟨hown, hadvisory, hpackage⟩, rfl⟩
  · rintro ⟨⟨hown, hadvisory, hpackage⟩, rfl⟩
    refine ⟨_, ⟨hown, rfl⟩, _, ⟨?_, rfl⟩, _, ⟨?_, rfl⟩, ?_⟩
    · rwa [Json.field_entries]
    · rwa [Json.field_entries]
    · simp only [Json.field_entries]
      rfl

private theorem readElements_eq_ok_iff {label : String} {raw : List Json}
    {elements : List Element} :
    Json.readEach (readElement label) 0 raw = .ok elements ↔
      (∀ element ∈ raw, IsElement element) ∧ elements = raw.map elementAt :=
  Json.readEach_eq_ok_iff (readElement_eq_ok_iff label)

private theorem readWarnings_eq_ok_iff {output : Json} {category : WarningCategory}
    {warnings : List AdvisoryWarning} :
    readWarnings (output.member "warnings").entries category = .ok warnings ↔
      IsFindings (rawWarnings output category) ∧ warnings = warningsAt output category := by
  simp only [readWarnings, bind_eq_ok, items_eq_ok_iff, readElements_eq_ok_iff, Json.field_entries]
  have hmap : (rawWarnings output category).elements.map (warningOf category ∘ elementAt) =
      warningsAt output category :=
    congrArg (List.map · _) (funext (warningOf_elementAt category))
  constructor
  · rintro ⟨_, ⟨hlisting, rfl⟩, _, ⟨helements, rfl⟩, hmade⟩
    cases hmade
    rw [List.map_map]
    exact ⟨⟨hlisting, helements⟩, hmap⟩
  · rintro ⟨⟨hlisting, helements⟩, rfl⟩
    refine ⟨_, ⟨hlisting, rfl⟩, _, ⟨helements, rfl⟩, ?_⟩
    rw [List.map_map, ← hmap]
    rfl

/-- A scan output is accepted if and only if it has its sections and lists, and then it makes its
report. -/
theorem ofJson_eq_ok_iff {output : Json} {report : AdvisoryReport} :
    ofJson output = .ok report ↔ IsReport output ∧ report = reportAt output := by
  have hmap : (rawVulnerabilities output).elements.map (vulnerabilityOf ∘ elementAt) =
      (rawVulnerabilities output).elements.map vulnerabilityAt :=
    congrArg (List.map · _) (funext vulnerabilityOf_elementAt)
  cases output with
  | obj fields =>
    simp only [ofJson, bind_eq_ok, sectionFields_eq_ok_iff, items_eq_ok_iff, readElements_eq_ok_iff,
      Json.field_eq_member fields]
    constructor
    · rintro ⟨_, ⟨hvulnerable, rfl⟩, _, ⟨hlisting, rfl⟩, _, ⟨helements, rfl⟩, _, ⟨hwarned, rfl⟩, h⟩
      simp only [readWarnings_eq_ok_iff] at h
      obtain ⟨_, ⟨hunmaintained, rfl⟩, _, ⟨hunsound, rfl⟩, _, ⟨hnotice, rfl⟩, hmade⟩ := h
      rw [Json.field_entries] at hlisting helements
      cases hmade
      refine ⟨⟨⟨fields, rfl⟩, hvulnerable, ⟨hlisting, helements⟩, hwarned, ?_⟩, ?_⟩
      · rintro (_ | _ | _)
        · exact hunmaintained
        · exact hunsound
        · exact hnotice
      · rw [List.map_map, Json.field_entries, reportAt, ← hmap]
        rfl
    · rintro ⟨hshape, rfl⟩
      refine ⟨_, ⟨hshape.vulnerable, rfl⟩, _, ⟨?_, rfl⟩, _, ⟨?_, rfl⟩, _, ⟨hshape.warned, rfl⟩, ?_⟩
      · rw [Json.field_entries]
        exact hshape.vulnerabilities.listing
      · rw [Json.field_entries]
        exact hshape.vulnerabilities.elements
      · simp only [readWarnings_eq_ok_iff]
        refine ⟨_, ⟨hshape.warnings _, rfl⟩, _, ⟨hshape.warnings _, rfl⟩, _, ⟨hshape.warnings _, rfl⟩, ?_⟩
        rw [List.map_map, Json.field_entries, reportAt, ← hmap]
        rfl
  | _ =>
    refine iff_of_false nofun ?_
    rintro ⟨⟨⟨fields, hobject⟩, _⟩, _⟩
    cases hobject

def rawFindings (output : Json) : List Json :=
  (rawWarnings output .unmaintained).elements ++ (rawWarnings output .unsound).elements ++
    (rawWarnings output .notice).elements

theorem mem_rawFindings {output element : Json} :
    element ∈ rawFindings output ↔ ∃ category, element ∈ (rawWarnings output category).elements := by
  simp only [rawFindings, List.mem_append]
  constructor
  · intro h
    rcases h with (h | h) | h <;> exact ⟨_, h⟩
  · intro h
    obtain ⟨category, h⟩ := h
    cases category with
    | unmaintained => exact .inl (.inl h)
    | unsound => exact .inl (.inr h)
    | notice => exact .inr h

/-- The reading of an accepted scan output in terms of its raw elements. -/
theorem ofJson_eq_ok {output : Json} {report : AdvisoryReport} (h : ofJson output = .ok report) :
    (report.vulnerabilities = [] ↔
      rawVulnerabilities output = .null ∨ rawVulnerabilities output = .arr []) ∧
    report.warnings.map AdvisoryWarning.advisoryId =
      (rawFindings output).map fun raw => (rawId raw).orElse .null := by
  obtain ⟨hshape, rfl⟩ := ofJson_eq_ok_iff.mp h
  constructor
  · rw [← hshape.vulnerabilities.listing.elements_eq_nil_iff]
    exact List.map_eq_nil_iff
  · simp only [reportAt, warnings, warningsAt, rawFindings, List.map_append, List.map_map]
    rfl

end CrateGuard.AdvisoryReport
