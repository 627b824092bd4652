import Mathlib
import CrateGuard.Proofs.Freshness.NamedVersions
import CrateGuard.Proofs.Text.Numerals
import CrateGuard.Proofs.Text.Separation
import CrateGuard.Report.Summary

/-! Whether the table of a summary can be read back. Its cells stand between bars as they are, and
its rows end with line feeds. So each row shows its cells if and only if no cell holds a bar or a
line feed, and after a freshness check that leaves the names and groups of the watch list, and the
bars that a version may have in its build metadata. -/

namespace CrateGuard

namespace Text

private theorem split_lines {lines : List Text} (h : ∀ line ∈ lines, .char '\n' ∉ line)
    (rest : Text) :
    split '\n' (lines.flatMap (· ++ ofString "\n") ++ rest) = lines ++ split '\n' rest := by
  induction lines with
  | nil => rfl
  | cons line later ih =>
    obtain ⟨hline, hlater⟩ := List.forall_mem_cons.mp h
    rw [List.flatMap_cons, List.append_assoc, List.append_assoc]
    exact (split_append hline _).trans (congrArg (line :: ·) (ih hlater))

end Text

namespace Report

def spaced (cell : Text) : Text := .char ' ' :: cell ++ [.char ' ']

/-- A line that falls at its bars into the given cells, each between spaces, and nothing before or
after them. -/
def Shows (line : Text) (cells : List Text) : Prop :=
  Text.split '|' line = [] :: cells.map spaced ++ [[]]

/-- A text that has, right below the lines of its head, one line for each row of a table and then an
empty one. -/
def ShowsTable (head : List Text) (rows : List TableRow) (text : Text) : Prop :=
  ∃ lines after, Text.split '\n' text = head ++ lines ++ [] :: after ∧
    List.Forall₂ (fun line row => Shows line row.cells) lines rows

/-- A text that can stand in a cell: without bars and line feeds. -/
def FitsCell (cell : Text) : Prop :=
  .char '|' ∉ cell ∧ .char '\n' ∉ cell

instance (cell : Text) : Decidable (FitsCell cell) := inferInstanceAs (Decidable (_ ∧ _))

private theorem mem_spaced {c : CodePoint} (hc : c ≠ .char ' ') {cell : Text} :
    c ∈ spaced cell ↔ c ∈ cell := by
  simp [spaced, hc]

private theorem summaryRow_eq_join (row : TableRow) :
    summaryRow row = Text.join '|' ([] :: row.cells.map spaced ++ [[]]) := by
  simp [summaryRow, TableRow.cells, Text.listed, List.intercalate, List.intersperse, Text.join, spaced, Text.ofString]

private theorem shows_summaryRow {row : TableRow} (h : ∀ cell ∈ row.cells, .char '|' ∉ cell) :
    Shows (summaryRow row) row.cells := by
  rw [Shows, summaryRow_eq_join]
  refine Text.split_join (by simp) ?_
  simp only [List.mem_cons, List.mem_append, List.mem_map, List.not_mem_nil, or_false]
  rintro _ ((rfl | ⟨cell, hcell, rfl⟩) | rfl)
  · exact List.not_mem_nil
  · exact fun hbar => h cell hcell ((mem_spaced (by decide)).mp hbar)
  · exact List.not_mem_nil

private theorem lineFeed_not_mem_summaryRow {row : TableRow}
    (h : ∀ cell ∈ row.cells, .char '\n' ∉ cell) :
    .char '\n' ∉ summaryRow row := by
  simp only [TableRow.cells, List.forall_mem_cons] at h
  simp [summaryRow, TableRow.cells, Text.listed, List.intercalate, List.intersperse, Text.ofString, h]

/-- What a line shows holds no bar, and no line feed if the line has none. -/
theorem Shows.not_mem {line : Text} {cells : List Text} (h : Shows line cells) {cell : Text}
    (hcell : cell ∈ cells) :
    .char '|' ∉ cell ∧ (.char '\n' ∉ line → .char '\n' ∉ cell) := by
  have hpart : spaced cell ∈ Text.split '|' line := by
    rw [h]
    simp only [List.mem_append, List.mem_cons, List.mem_map]
    exact .inl (.inr ⟨cell, hcell, rfl⟩)
  constructor
  · exact fun hbar => Text.not_mem_of_mem_split hpart ((mem_spaced (by decide)).mpr hbar)
  · exact fun hline hfeed => hline ((Text.infix_of_mem_split hpart).subset ((mem_spaced (by decide)).mpr hfeed))

/-- Nor do the cells of a table that a text shows. -/
theorem ShowsTable.not_mem {head : List Text} {rows : List TableRow} {text : Text}
    (h : ShowsTable head rows text) :
    ∀ row ∈ rows, ∀ cell ∈ row.cells, FitsCell cell := by
  obtain ⟨lines, after, hsplit, hshown⟩ := h
  have hlines : ∀ line ∈ lines, .char '\n' ∉ line := by
    intro line hline
    refine Text.not_mem_of_mem_split (s := text) ?_
    rw [hsplit]
    exact List.mem_append_left _ (List.mem_append_right _ hline)
  clear hsplit
  induction hshown with
  | nil => simp
  | cons hshows _ ih =>
    obtain ⟨hline, hlater⟩ := List.forall_mem_cons.mp hlines
    refine List.forall_mem_cons.mpr ⟨?_, ih hlater⟩
    intro cell hcell
    obtain ⟨hbar, hfeed⟩ := hshows.not_mem hcell
    exact ⟨hbar, hfeed hline⟩

private theorem lineFeed_not_mem_timestamp {moment : Moment} {timestamp : Text}
    (h : moment.timestamp? = some timestamp) :
    .char '\n' ∉ timestamp := by
  have hpadded (width value : Nat) : .char '\n' ∉ Text.padded width value := by
    intro hmem
    exact absurd (Text.isAsciiDigit_of_mem_padded _ hmem) (by decide)
  obtain ⟨reading, _, rfl⟩ := Option.map_eq_some_iff.mp h
  simp [Moment.timestampText, Date.text, hpadded, Text.ofString]

private theorem lineFeed_not_mem_summaryHead (advisory : Bool) {timestamp : Text}
    (h : .char '\n' ∉ timestamp) :
    ∀ line ∈ summaryHead advisory timestamp, .char '\n' ∉ line := by
  have hmode : .char '\n' ∉ Text.ofString s!"- Mode: {modeName advisory}" := by cases advisory <;> decide
  have hstamp : .char '\n' ∉ Text.ofString "- Timestamp (UTC): " ++ timestamp := by
    rw [List.mem_append, not_or]
    exact ⟨by decide, h⟩
  simp only [summaryHead, List.forall_mem_cons]
  exact ⟨by decide, by decide, hmode, hstamp, by decide, by decide, by decide, by nofun⟩

private theorem exists_split_summaryTail (violations : List Violation) :
    ∃ after, Text.split '\n' ((summaryTail violations).flatMap (· ++ "\n")) = [] :: after := by
  unfold summaryTail
  split
  · exact ⟨[], rfl⟩
  · exact ⟨_, rfl⟩

private theorem fitsCell_versionOr {sentinel : Text} (hsentinel : FitsCell sentinel)
    {version : Option Text} :
    FitsCell (TableRow.versionOr sentinel version) ↔ ∀ t, version = some t → FitsCell t := by
  unfold TableRow.versionOr
  split
  · exact iff_of_true hsentinel (by nofun)
  · refine iff_of_true hsentinel ?_
    rintro _ ⟨⟩
    exact ⟨List.not_mem_nil, List.not_mem_nil⟩
  · simp

end Report

/-- In the row of an outcome of a check all cells fit if and only if the name and the group do, and
no version holds a bar. -/
private theorem DependencyOutcome.IsRead.fitsCell_iff {outcome : DependencyOutcome}
    (h : outcome.IsRead) :
    (∀ cell ∈ (TableRow.ofOutcome outcome).cells, Report.FitsCell cell) ↔
      (Report.FitsCell outcome.dependency.name ∧ Report.FitsCell outcome.dependency.group) ∧
        ∀ t, outcome.current = some t ∨ outcome.latest = some t → .char '|' ∉ t := by
  have hversion {t : Text} (hread : ∃ v, Version.parse t = .ok v) : Report.FitsCell t ↔ .char '|' ∉ t := by
    obtain ⟨v, hv⟩ := hread
    exact and_iff_left (Version.lineFeed_not_mem_of_parse hv)
  have hcells : Report.FitsCell (TableRow.versionCells outcome).1 ∧ Report.FitsCell (TableRow.versionCells outcome).2 ↔
      (∀ t, outcome.current = some t → Report.FitsCell t) ∧ ∀ t, outcome.latest = some t → Report.FitsCell t := by
    unfold TableRow.versionCells
    split
    · rename_i hmissing
      rw [h.current_none hmissing, h.latest_none (by rw [hmissing]; rfl)]
      exact iff_of_true ⟨by decide, by decide⟩ ⟨by nofun, by nofun⟩
    · rename_i hunfetched
      rw [h.latest_none (by rw [hunfetched]; rfl), Report.fitsCell_versionOr (by decide)]
      have hsentinel : Report.FitsCell TableRow.notFetched := by decide
      exact and_congr_right fun _ => iff_of_true hsentinel (by nofun)
    · rw [Report.fitsCell_versionOr (by decide), Report.fitsCell_versionOr (by decide)]
  have htag : Report.FitsCell outcome.freshness.tag := by
    cases outcome.freshness <;> decide
  have hread :
      ((∀ t, outcome.current = some t → Report.FitsCell t) ∧ ∀ t, outcome.latest = some t → Report.FitsCell t) ↔
        ∀ t, outcome.current = some t ∨ outcome.latest = some t → .char '|' ∉ t := by
    constructor
    · rintro ⟨hcurrent, hlatest⟩ t (ht | ht)
      · exact (hcurrent t ht).1
      · exact (hlatest t ht).1
    · intro hbar
      exact ⟨fun t ht => (hversion (h.current_read t ht)).mpr (hbar t (.inl ht)),
        fun t ht => (hversion (h.latest_read t ht)).mpr (hbar t (.inr ht))⟩
  rw [← hread, ← hcells]
  simp only [TableRow.cells, TableRow.ofOutcome, List.forall_mem_cons, htag, List.not_mem_nil, false_imp_iff,
    implies_true, and_true, and_assoc]

namespace Report
section
variable {advisory : Bool} {outcomes : List DependencyOutcome} {violations : List Violation} {moment : Moment}
variable {timestamp text : Text}

private theorem showsTable_iff (htimestamp : moment.timestamp? = some timestamp)
    (htext : summary? advisory outcomes violations moment = some text) :
    ShowsTable (summaryHead advisory timestamp) (TableRow.table outcomes) text ↔
      ∀ row ∈ TableRow.table outcomes, ∀ cell ∈ row.cells, FitsCell cell := by
  constructor
  · exact ShowsTable.not_mem
  · intro hplain
    have hhead := lineFeed_not_mem_summaryHead advisory (lineFeed_not_mem_timestamp htimestamp)
    have hrows : ∀ line ∈ (TableRow.table outcomes).map summaryRow, .char '\n' ∉ line :=
      List.forall_mem_map.mpr fun row hrow =>
        lineFeed_not_mem_summaryRow fun cell hcell => (hplain row hrow cell hcell).2
    obtain ⟨after, htail⟩ := exists_split_summaryTail violations
    rw [summary?, htimestamp, Option.map_some, Option.some.injEq, summaryLines, List.flatMap_append] at htext
    refine ⟨(TableRow.table outcomes).map summaryRow, after, ?_, ?_⟩
    · rw [← htext, Text.split_lines (List.forall_mem_append.mpr ⟨hhead, hrows⟩), htail]
    · rw [List.forall₂_map_left_iff, List.forall₂_same]
      exact fun row hrow => shows_summaryRow fun cell hcell => (hplain row hrow cell hcell).1

/-- After a check the summary has one line for each watched package, which falls at its bars into
the five cells of the outcome, if and only if no name and no group holds a bar or a line feed and no
version holds a bar. A version never holds a line feed, but it may hold bars in its build
metadata. -/
theorem showsTable_of_check_iff {resolved : Resolved} {lookup : Text → Run Lookup}
    {watched : List Watched}
    (hcheck : (Freshness.check resolved lookup advisory watched).result = .ok outcomes)
    (htimestamp : moment.timestamp? = some timestamp)
    (htext : summary? advisory outcomes violations moment = some text) :
    outcomes.map (·.dependency) = watched ∧
      (ShowsTable (summaryHead advisory timestamp) (TableRow.table outcomes) text ↔
        (∀ dependency ∈ watched, FitsCell dependency.name ∧ FitsCell dependency.group) ∧
          ∀ outcome ∈ outcomes, ∀ version, outcome.current = some version ∨ outcome.latest = some version →
            .char '|' ∉ version) := by
  obtain ⟨hwatched, hread⟩ := Freshness.check_isRead hcheck
  refine ⟨hwatched, ?_⟩
  rw [showsTable_iff htimestamp htext, ← hwatched, List.forall_mem_map, TableRow.table, List.forall_mem_map,
    ← forall₂_and]
  exact forall₂_congr fun outcome hmem => (hread outcome hmem).fitsCell_iff

end

def oneWatched : List Watched := [⟨"serde", "unknown", false⟩]

def oneResolved : Resolved := [(.str "serde", [.str "1.0.9"])]

def answering (version : Text) (_ : Text) : Run Lookup := return .found (.str version)

def oneOutdated (version : Text) : DependencyOutcome :=
  ⟨⟨"serde", "unknown", false⟩, .outdatedWarn, some "1.0.9", some version, none⟩

def secondOfJanuary : Moment := ⟨⟨2024, 1, 2, rfl⟩, 11045000000, none⟩

private theorem secondOfJanuary_timestamp :
    secondOfJanuary.timestamp? = some "2024-01-02T03:04:05.000Z" := by cbv

private theorem exists_summary_secondOfJanuary (outcomes : List DependencyOutcome) :
    ∃ text, summary? false outcomes (DependencyOutcome.violations outcomes) secondOfJanuary = some text := by
  rw [summary?, secondOfJanuary_timestamp]
  exact ⟨_, rfl⟩

/-- Other build metadata than bars leaves the table as it should be. -/
theorem showsTable_of_check_dashed :
    ∃ text, summary? false [oneOutdated "1.0.10+x-y"] (DependencyOutcome.violations [oneOutdated "1.0.10+x-y"])
        secondOfJanuary = some text ∧
      ShowsTable (summaryHead false "2024-01-02T03:04:05.000Z") (TableRow.table [oneOutdated "1.0.10+x-y"]) text := by
  have hcheck : (Freshness.check oneResolved (answering "1.0.10+x-y") false oneWatched).result =
      .ok [oneOutdated "1.0.10+x-y"] := by cbv
  obtain ⟨text, htext⟩ := exists_summary_secondOfJanuary [oneOutdated "1.0.10+x-y"]
  refine ⟨text, htext, (showsTable_of_check_iff hcheck secondOfJanuary_timestamp htext).2.mpr ⟨?_, ?_⟩⟩
  · exact List.forall_mem_singleton.mpr ⟨by decide, by decide⟩
  · refine List.forall_mem_singleton.mpr ?_
    rintro _ (⟨⟨⟩⟩ | ⟨⟨⟩⟩)
    · decide
    · decide

/-- A registry that answers with a bar in the build metadata spoils it. -/
theorem not_showsTable_of_bar :
    (Freshness.check oneResolved (answering "1.0.10+x|y") false oneWatched).result = .ok [oneOutdated "1.0.10+x|y"] ∧
      ∃ text, summary? false [oneOutdated "1.0.10+x|y"] (DependencyOutcome.violations [oneOutdated "1.0.10+x|y"])
          secondOfJanuary = some text ∧
        ¬ShowsTable (summaryHead false "2024-01-02T03:04:05.000Z")
          (TableRow.table [oneOutdated "1.0.10+x|y"]) text := by
  refine ⟨by cbv, ?_⟩
  obtain ⟨text, htext⟩ := exists_summary_secondOfJanuary [oneOutdated "1.0.10+x|y"]
  refine ⟨text, htext, fun hshown => ?_⟩
  have hfits := hshown.not_mem _ List.mem_cons_self "1.0.10+x|y" (by decide)
  exact absurd hfits (by decide)

end Report

end CrateGuard
