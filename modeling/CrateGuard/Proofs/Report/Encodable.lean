import CrateGuard.Freshness.Violations
import CrateGuard.Proofs.Text.Encoded
import CrateGuard.Proofs.Text.Separation
import CrateGuard.Report.Csv
import CrateGuard.Report.Summary

/-! Reports of whole texts. A text has a UTF-8 form if and only if it is whole, which means that it
holds no half of a surrogate pair; reports of outcomes whose texts are whole are whole
themselves. -/

namespace CrateGuard

namespace Text

/-- A text without halves of surrogate pairs. -/
def IsWhole (s : Text) : Prop := ∀ c ∈ s, c.isHalf = false

@[simp] theorem isWhole_nil : IsWhole [] := by simp [IsWhole]

@[simp] theorem isWhole_cons {c : CodePoint} {s : Text} : IsWhole (c :: s) ↔ c.isHalf = false ∧ IsWhole s := by
  simp [IsWhole]

@[simp] theorem isWhole_append {s t : Text} : IsWhole (s ++ t) ↔ IsWhole s ∧ IsWhole t := by
  simp only [IsWhole, List.mem_append]
  exact ⟨fun h => ⟨fun c hc => h c (.inl hc), fun c hc => h c (.inr hc)⟩, fun h c hc => hc.elim (h.1 c) (h.2 c)⟩

@[simp] theorem isWhole_ofString (s : String) : IsWhole (ofString s) := by
  intro c hc
  obtain ⟨char, _, rfl⟩ := List.mem_map.mp hc
  rfl

private theorem isWhole_flatMap {α : Type} {as : List α} {f : α → Text}
    (h : ∀ a ∈ as, (f a).IsWhole) :
    IsWhole (as.flatMap f) := by
  intro c hc
  obtain ⟨a, ha, hc⟩ := List.mem_flatMap.mp hc
  exact h a ha c hc

private theorem isWhole_join {separator : CodePoint} (hseparator : separator.isHalf = false)
    {parts : List Text}
    (h : ∀ part ∈ parts, part.IsWhole) : IsWhole (join separator parts) := by
  induction parts using join.induct with
  | case1 => exact isWhole_nil
  | case2 part => exact h part List.mem_cons_self
  | case3 part parts hparts ih =>
    rw [join]
    · rw [isWhole_append, isWhole_cons]
      exact ⟨h part List.mem_cons_self, hseparator, ih fun other hother => h other (List.mem_cons_of_mem _ hother)⟩
    · exact hparts

private theorem isWhole_listed {between : Text} (hbetween : between.IsWhole) {parts : List Text}
    (h : ∀ part ∈ parts, part.IsWhole) : IsWhole (listed between parts) := by
  unfold listed
  induction parts with
  | nil => exact isWhole_nil
  | cons part rest ih =>
    obtain ⟨hpart, hrest⟩ := List.forall_mem_cons.mp h
    cases rest with
    | nil => simpa [List.intercalate] using hpart
    | cons next later =>
      rw [List.intercalate_cons_cons, isWhole_append, isWhole_append]
      exact ⟨⟨hpart, hbetween⟩, ih hrest⟩

private theorem isWhole_padded (width value : Nat) : IsWhole (padded width value) := by
  rw [padded, isWhole_append]
  refine ⟨?_, isWhole_ofString _⟩
  intro c hc
  rw [(List.mem_replicate.mp hc).2]
  rfl

theorem exists_bytes_iff {s : Text} : (∃ bytes, s.bytes? = some bytes) ↔ s.IsWhole := by
  simp only [bytes?_eq_some_iff]
  constructor
  · rintro ⟨_, chars, rfl, _⟩ c hc
    obtain ⟨char, _, rfl⟩ := List.mem_map.mp hc
    rfl
  · intro h
    obtain ⟨chars, hchars⟩ : ∃ chars : List Char, s = chars.map CodePoint.char := by
      induction s with
      | nil => exact ⟨[], rfl⟩
      | cons c rest ih =>
        obtain ⟨hc, hrest⟩ := isWhole_cons.mp h
        obtain ⟨later, rfl⟩ := ih hrest
        cases c with
        | char first => exact ⟨first :: later, rfl⟩
        | half offset => cases hc
    exact ⟨_, chars, hchars, rfl⟩

end Text

namespace DependencyOutcome

/-- An outcome all of whose texts are whole. -/
structure IsWhole (outcome : DependencyOutcome) : Prop where
  name : outcome.dependency.name.IsWhole
  group : outcome.dependency.group.IsWhole
  current : ∀ t, outcome.current = some t → t.IsWhole
  latest : ∀ t, outcome.latest = some t → t.IsWhole
  detail : ∀ t, outcome.detail = some t → t.IsWhole

private theorem isWhole_shown {part : Option Text} (h : ∀ t, part = some t → t.IsWhole) :
    (shown part).IsWhole := by
  cases part with
  | none => exact Text.isWhole_ofString _
  | some t => exact h t rfl

private theorem isWhole_missingMessage {name : Text} {detail : Option Text} (hname : name.IsWhole)
    (hdetail : ∀ t, detail = some t → t.IsWhole) : (missingMessage name detail).IsWhole := by
  unfold missingMessage
  split
  · simp [hname]
  · simp [hname]
  · simp [hname, hdetail]

theorem IsWhole.violation {outcome : DependencyOutcome} (h : outcome.IsWhole)
    {violation : Violation}
    (hviolation : outcome.violation? = some violation) : violation.message.IsWhole := by
  unfold violation? at hviolation
  split at hviolation
  · cases hviolation
  · split at hviolation
    · cases hviolation
      exact isWhole_missingMessage h.name h.detail
    · cases hviolation
      simp [h.name, isWhole_shown h.detail]
    · cases hviolation
      simp [h.name, isWhole_shown h.current, isWhole_shown h.latest]

private theorem isWhole_versionOr {sentinel : Text} (hsentinel : sentinel.IsWhole)
    {version : Option Text}
    (h : ∀ t, version = some t → t.IsWhole) : (TableRow.versionOr sentinel version).IsWhole := by
  unfold TableRow.versionOr
  split
  · exact hsentinel
  · exact hsentinel
  · exact h _ rfl

theorem IsWhole.cells {outcome : DependencyOutcome} (h : outcome.IsWhole) :
    ∀ cell ∈ (TableRow.ofOutcome outcome).cells, cell.IsWhole := by
  have hversions : (TableRow.versionCells outcome).1.IsWhole ∧ (TableRow.versionCells outcome).2.IsWhole := by
    unfold TableRow.versionCells
    split
    · exact ⟨Text.isWhole_ofString _, Text.isWhole_ofString _⟩
    · exact ⟨isWhole_versionOr (Text.isWhole_ofString _) h.current, Text.isWhole_ofString _⟩
    · exact ⟨isWhole_versionOr (Text.isWhole_ofString _) h.current,
        isWhole_versionOr (Text.isWhole_ofString _) h.latest⟩
  simp [TableRow.cells, TableRow.ofOutcome, h.name, h.group, hversions]

end DependencyOutcome

section
variable {outcomes : List DependencyOutcome}

private theorem Moment.isWhole_timestamp {moment : Moment} {timestamp : Text}
    (h : moment.timestamp? = some timestamp) :
    timestamp.IsWhole := by
  obtain ⟨reading, _, rfl⟩ := Option.map_eq_some_iff.mp h
  simp [timestampText, Date.text, Text.isWhole_padded]

private theorem Report.isWhole_summary {advisory : Bool} {moment : Moment} {text : Text}
    (h : ∀ outcome ∈ outcomes, outcome.IsWhole)
    (htext : summary? advisory outcomes (DependencyOutcome.violations outcomes) moment = some text) :
    text.IsWhole := by
  obtain ⟨timestamp, htimestamp, rfl⟩ := Option.map_eq_some_iff.mp htext
  have hhead : ∀ line ∈ summaryHead advisory timestamp, line.IsWhole := by
    simp [summaryHead, Moment.isWhole_timestamp htimestamp]
  have hrows : ∀ line ∈ (TableRow.table outcomes).map summaryRow, line.IsWhole := by
    simp only [TableRow.table, List.map_map, List.forall_mem_map]
    intro outcome hmem
    have hcells := Text.isWhole_listed (Text.isWhole_ofString " | ") (h outcome hmem).cells
    simp [summaryRow, hcells]
  have htail : ∀ line ∈ summaryTail (DependencyOutcome.violations outcomes), line.IsWhole := by
    unfold summaryTail
    split
    · simp
    · simp only [List.forall_mem_cons, List.forall_mem_map]
      refine ⟨Text.isWhole_ofString _, Text.isWhole_ofString _, ?_⟩
      intro violation hmem
      obtain ⟨outcome, houtcome, hviolation⟩ := List.mem_filterMap.mp hmem
      simp [summaryItem, (h outcome houtcome).violation hviolation]
  apply Text.isWhole_flatMap
  intro line hmem
  have hline : Text.IsWhole line := by
    simp only [summaryLines, List.mem_append] at hmem
    rcases hmem with (hmem | hmem) | hmem
    · exact hhead line hmem
    · exact hrows line hmem
    · exact htail line hmem
  simp [hline]

theorem Report.exists_summary_bytes {moment : Moment} (advisory : Bool)
    (h : ∀ outcome ∈ outcomes, outcome.IsWhole)
    (htimestamp : moment.timestamp?.isSome = true) :
    ∃ text bytes, summary? advisory outcomes (DependencyOutcome.violations outcomes) moment = some text ∧
      text.bytes? = some bytes := by
  obtain ⟨timestamp, htimestamp⟩ := Option.isSome_iff_exists.mp htimestamp
  obtain ⟨text, htext⟩ :
      ∃ text, summary? advisory outcomes (DependencyOutcome.violations outcomes) moment = some text := by
    simp [summary?, htimestamp]
  obtain ⟨bytes, hbytes⟩ := Text.exists_bytes_iff.mpr (isWhole_summary h htext)
  exact ⟨text, bytes, htext, hbytes⟩

section
variable {quotesToo : CodePoint → Bool}

private theorem Csv.isWhole_field_iff {cell : Text} : (field quotesToo cell).IsWhole ↔
    cell.IsWhole := by
  unfold field
  split
  · constructor
    · intro h c hc
      have hpoint : c ∈ quotedPoint c := by
        unfold quotedPoint
        split
        next hquote => exact hquote ▸ List.mem_cons_self
        · exact List.mem_singleton_self c
      exact h c (List.mem_cons_of_mem _ (List.mem_append_left _ (List.mem_flatMap.mpr ⟨c, hc, hpoint⟩)))
    · intro h
      have hpoints : Text.IsWhole (cell.flatMap quotedPoint) := by
        apply Text.isWhole_flatMap
        intro c hc
        unfold quotedPoint
        split
        · simp [CodePoint.isHalf]
        · simp [h c hc]
      simp [hpoints, CodePoint.isHalf]
  · rfl

private theorem Csv.isWhole_record_iff {cells : List Text} :
    (record quotesToo cells).IsWhole ↔ ∀ cell ∈ cells, cell.IsWhole := by
  rw [record, Text.isWhole_append]
  constructor
  · rintro ⟨hjoin, _⟩ cell hmem
    have hpart : field quotesToo cell <:+: Text.join ',' (cells.map (field quotesToo)) :=
      Text.infix_join_of_mem (List.mem_map_of_mem hmem)
    exact isWhole_field_iff.mp fun c hc => hjoin c (hpart.subset hc)
  · intro h
    refine ⟨Text.isWhole_join rfl ?_, Text.isWhole_ofString _⟩
    rw [List.forall_mem_map]
    exact fun cell hmem => isWhole_field_iff.mpr (h cell hmem)

end

/-- A table has a UTF-8 form if and only if all of its cells are whole. -/
theorem Csv.isEncodable_iff {rows : List TableRow} :
    isEncodable rows = true ↔ ∀ row ∈ rows, ∀ cell ∈ row.cells, cell.IsWhole := by
  simp only [isEncodable, List.all_eq_true, Option.isSome_iff_exists, Text.exists_bytes_iff]

/-- However it is written, all of its records are whole then, with the header, which always is. -/
theorem Csv.isWhole_of_mem_records (quotesToo : CodePoint → Bool) {rows : List TableRow}
    (h : isEncodable rows = true) : ∀ line ∈ records quotesToo rows, line.IsWhole := by
  have hcolumns : ∀ cell ∈ TableRow.columns, cell.IsWhole := by simp [TableRow.columns]
  simp only [records, List.forall_mem_map, List.forall_mem_cons, isWhole_record_iff]
  exact ⟨hcolumns, isEncodable_iff.mp h⟩

/-- The table of whole outcomes has one. -/
theorem Csv.isEncodable_table (h : ∀ outcome ∈ outcomes, outcome.IsWhole) :
    isEncodable (TableRow.table outcomes) = true := by
  rw [isEncodable_iff, TableRow.table, List.forall_mem_map]
  exact fun outcome hmem => (h outcome hmem).cells

end

end CrateGuard
