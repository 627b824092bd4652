import Mathlib
import CrateGuard.Proofs.Gate.Artifacts
import CrateGuard.Proofs.Report.CsvDecoding
import CrateGuard.Proofs.Report.Encodable

/-! The file of the table read back. A table that is exported is found again in its file, cell by
cell under its header, whatever its cells hold; a cell with half of a surrogate pair, which has no
UTF-8 form, keeps it from being exported. -/

namespace CrateGuard

namespace TableRow
variable {rows others : List TableRow}

def withHeader (rows : List TableRow) : List (List Text) :=
  columns :: rows.map cells

private theorem cells_injective : Function.Injective cells := by
  rintro ⟨name, group, current, latest, outcome⟩ ⟨_, _, _, _, _⟩ h
  cases h
  rfl

private theorem withHeader_inj : withHeader rows = withHeader others ↔ rows = others := by
  simp [withHeader, cells_injective.list_map.eq_iff]

end TableRow

namespace Csv
variable (quotesToo : CodePoint → Bool) {rows : List TableRow}

private theorem spellsField_field (cell : Text) : SpellsField cell (field quotesToo cell) := by
  unfold field
  split
  · exact .quoted cell
  next h =>
    simp only [List.any_eq_true, Bool.or_eq_true, not_exists, not_and, not_or, Bool.not_eq_true] at h
    exact .plain fun c hc => (h c hc).1

private theorem spellsRecord_record {cells : List Text} (h : cells ≠ []) :
    SpellsRecord cells (record quotesToo cells) := by
  refine ⟨h, _, ?_, rfl⟩
  rw [List.forall₂_map_right_iff, List.forall₂_same]
  exact fun cell _ => spellsField_field quotesToo cell

/-- What is written spells the table. -/
private theorem spells_write (rows : List TableRow) : Spells (TableRow.withHeader rows)
    (write quotesToo rows) := by
  refine ⟨records quotesToo rows, ?_, rfl⟩
  rw [records, List.forall₂_map_right_iff]
  refine List.forall₂_same.mpr fun cells hmem => spellsRecord_record quotesToo ?_
  rcases List.mem_cons.mp hmem with rfl | hmem
  · exact List.cons_ne_nil _ _
  · obtain ⟨row, _, rfl⟩ := List.mem_map.mp hmem
    exact List.cons_ne_nil _ _

private theorem bytes?_write (h : isEncodable rows = true) :
    (write quotesToo rows).bytes? = some (bytes quotesToo rows) := by
  have hlines := isWhole_of_mem_records quotesToo h
  have hwhole : (write quotesToo rows).IsWhole := by
    intro c hc
    obtain ⟨line, hline, hc⟩ := List.mem_flatten.mp hc
    exact hlines line hline c hc
  obtain ⟨form, hform⟩ := Text.exists_bytes_iff.mpr hwhole
  have hall : (records quotesToo rows).takeWhile (fun line => line.bytes?.isSome) = records quotesToo rows :=
    List.takeWhile_eq_self_iff.mpr fun line hline =>
      Option.isSome_iff_exists.mpr (Text.exists_bytes_iff.mpr (hlines line hline))
  simp only [bytes, hall]
  rw [← write, hform, Option.getD_some]

end Csv

namespace Artifact

section
variable {world : World} {files : FileTree} {directory : ShownPath} {rows : List TableRow}

/-- The table can be saved: its directory is there or can be made, and its path, which is no
address, can be written to. -/
structure CanSave (world : World) (files : FileTree) (directory : ShownPath) (rows : List TableRow) : Prop where
  sound : directory.path.defect? = none
  shallow : files.isTooDeep directory.path = false
  saved : ∃ made written, files.ensureDirectories directory.path = (made, none) ∧
    save world made (tableTarget directory) rows = .ok (.ok written)
  noAddress : Address.isAddress (tableTarget directory) = false

/-- The table is exported: leaving it ends without a crash and with nothing to report, and its
place, whose path is no address, holds the bytes. -/
structure Exports (world : World) (files : FileTree) (directory : ShownPath) (rows : List TableRow)
    (bytes : ByteArray) : Prop where
  completes : (writeTable world directory rows files).2.result = .ok ()
  quiet : (writeTable world directory rows files).2.IsQuiet .bare
  entry : (writeTable world directory rows files).1.entryAt (tablePlace world directory) = some (.file bytes)
  noAddress : Address.isAddress (tableTarget directory) = false

private theorem entryAt_save {made written : FileTree}
    (haddress : Address.isAddress (tableTarget directory) = false)
    (h : save world made (tableTarget directory) rows = .ok (.ok written)) :
    written.entryAt (tablePlace world directory) = some (.file (Csv.bytes world.quotesToo rows)) :=
  FileTree.entryAt_modify_self (write_of_save haddress h)

private theorem Exports.canSave {bytes : ByteArray} (h : Exports world files directory rows bytes) :
    CanSave world files directory rows ∧ (Csv.write world.quotesToo rows).bytes? = some bytes := by
  obtain ⟨hresult, hquiet, hentry, haddress⟩ := h
  have hend := writeTable_end world files directory rows
  generalize writeTable world directory rows files = ended at hend hresult hquiet hentry
  cases hend with
  | defect hdefect => cases hresult
  | tooDeep hdefect hdeep => cases hresult
  | refused hdefect hdeep hmake => cases congrArg Trace.messages hquiet
  | crashed hdefect hdeep hmake hsave => cases hresult
  | unsaved hdefect hdeep hmake hsave => cases congrArg Trace.messages hquiet
  | saved hdefect hdeep hmake hsave =>
    have hencodable := concludeTable_result_iff.mp hresult
    rw [entryAt_save haddress hsave] at hentry
    cases hentry
    exact ⟨⟨hdefect, hdeep, ⟨_, _, hmake, hsave⟩, haddress⟩, Csv.bytes?_write world.quotesToo hencodable⟩

/-- A table that can be saved is written up to its first record without a UTF-8 form. -/
private theorem CanSave.writeTable_eq (h : CanSave world files directory rows) :
    (writeTable world directory rows files).2 = concludeTable (directory.path.below [tableName]) rows ∧
      (writeTable world directory rows files).1.entryAt (tablePlace world directory) =
        some (.file (Csv.bytes world.quotesToo rows)) := by
  obtain ⟨hdefect, hdeep, ⟨made, written, hmake, hsave⟩, haddress⟩ := h
  have htarget : save world made (directory.path.below [tableName]).text rows = .ok (.ok written) := hsave
  have hwrite : writeTable world directory rows files =
      (written, concludeTable (directory.path.below [tableName]) rows) := by
    simp [writeTable, makeAndWriteTable, hdefect, hdeep, hmake, htarget]
  rw [hwrite]
  exact ⟨rfl, entryAt_save haddress hsave⟩

/-- A table that can be saved is exported if and only if it has a UTF-8 form. -/
private theorem CanSave.exports_iff (h : CanSave world files directory rows) :
    (∃ bytes, Exports world files directory rows bytes) ↔ Csv.isEncodable rows = true := by
  obtain ⟨hrun, hentry⟩ := h.writeTable_eq
  constructor
  · rintro ⟨bytes, hexports⟩
    exact concludeTable_result_iff.mp (hrun ▸ hexports.completes)
  · intro hencodable
    refine ⟨Csv.bytes world.quotesToo rows, ?_, ?_, hentry, h.noAddress⟩
    · rw [hrun]
      exact concludeTable_result_iff.mpr hencodable
    · rw [hrun]
      exact concludeTable_isQuiet _ rows

/-- One that has none ends the run. -/
theorem CanSave.unencodable (h : CanSave world files directory rows)
    (hhalf : ¬Csv.isEncodable rows = true) :
    (writeTable world directory rows files).2.result = .error .unencodable := by
  rw [h.writeTable_eq.1, concludeTable, if_neg hhalf]
  rfl

end

/-- A table is read back from its file. Every text that spells it by the rules, quoting at least
what has to be quoted, is read as its header and its rows in order; so is the text of the file of an
exported table, and tables that are not the same have different files. Where a table can be saved,
it is exported if and only if no cell holds half of a surrogate pair; one that does ends the run. -/
theorem table_readBack (outcomes : List DependencyOutcome) :
    (∀ s, Csv.Spells (TableRow.withHeader (TableRow.table outcomes)) s →
      Csv.decode s = some (TableRow.withHeader (TableRow.table outcomes))) ∧
    (∀ world files directory bytes, Exports world files directory (TableRow.table outcomes) bytes →
      ∃ s, Text.ofBytes? bytes = some s ∧ Csv.decode s = some (TableRow.withHeader (TableRow.table outcomes))) ∧
    (∀ others world files directory bytes world' files' directory' bytes',
      Exports world files directory (TableRow.table outcomes) bytes →
      Exports world' files' directory' (TableRow.table others) bytes' →
      TableRow.table outcomes ≠ TableRow.table others → bytes ≠ bytes') ∧
    ∀ world files directory, CanSave world files directory (TableRow.table outcomes) →
      ((∃ bytes, Exports world files directory (TableRow.table outcomes) bytes) ↔
        ∀ row ∈ TableRow.table outcomes, ∀ cell ∈ row.cells, cell.IsWhole) ∧
      ((∃ row ∈ TableRow.table outcomes, ∃ cell ∈ row.cells, ¬cell.IsWhole) →
        (writeTable world directory (TableRow.table outcomes) files).2.result = .error .unencodable) := by
  refine ⟨fun s => Csv.Spells.decode_eq, ?_, ?_, ?_⟩
  · intro world files directory bytes hexports
    exact ⟨_, Text.ofBytes?_eq_some_iff.mpr hexports.canSave.2, (Csv.spells_write _ _).decode_eq⟩
  · rintro others world files directory bytes world' files' directory' _ hexports hothers hne rfl
    have htext := Text.ofBytes?_eq_some_iff.mpr hexports.canSave.2
    have hsame := Option.some.inj (htext.symm.trans (Text.ofBytes?_eq_some_iff.mpr hothers.canSave.2))
    have hread := (Csv.spells_write _ (TableRow.table outcomes)).unique
      (hsame ▸ Csv.spells_write _ (TableRow.table others))
    exact hne (TableRow.withHeader_inj.mp hread)
  · intro world files directory hsave
    rw [hsave.exports_iff, Csv.isEncodable_iff]
    refine ⟨Iff.rfl, ?_⟩
    rintro ⟨row, hrow, cell, hcell, hhalf⟩
    exact hsave.unencodable fun hencodable => hhalf (Csv.isEncodable_iff.mp hencodable row hrow cell hcell)

/-- A world without homes, whose writer of tables quotes a field for a carriage return. -/
def homelessWorld : World :=
  ⟨default, fun _ => .failed ⟨.value, []⟩, none, none, fun _ => none, (· == '\r')⟩

private theorem canSave_out (rows : List TableRow) :
    CanSave homelessWorld ⟨[]⟩ (.asWritten "out") rows := by
  have hmake : FileTree.ensureDirectories ⟨[]⟩ (ShownPath.asWritten "out").path =
      (⟨[(⟨false, 0, ["out".toByteArray.toList]⟩, .directory)]⟩, none) := by
    cbv
  exact ⟨rfl, by cbv, ⟨_, _, hmake, by cbv⟩, by cbv⟩

def quotedOutcome : DependencyOutcome :=
  ⟨⟨"a,b", "say \"x\"\n", false⟩, .upToDate, some "1.0.0", some "1.0.0+x", none⟩

/-- Its table is read back, which is not that of no outcomes. -/
theorem table_readBack_quoted :
    ∃ bytes other s, Exports homelessWorld ⟨[]⟩ (.asWritten "out") (TableRow.table [quotedOutcome]) bytes ∧
      Exports homelessWorld ⟨[]⟩ (.asWritten "out") (TableRow.table []) other ∧ bytes ≠ other ∧
      Text.ofBytes? bytes = some s ∧
      Csv.decode s =
        some [TableRow.columns, ["a,b", "say \"x\"\n", "1.0.0", "1.0.0+x", Freshness.upToDate.tag]] ∧
      Csv.decode (Csv.write homelessWorld.quotesToo (TableRow.table [quotedOutcome])) = Csv.decode s := by
  obtain ⟨hspelled, hread, hdistinct, hexported⟩ := table_readBack [quotedOutcome]
  obtain ⟨_, _, _, hempty⟩ := table_readBack []
  have hwhole : ∀ row ∈ TableRow.table [quotedOutcome], ∀ cell ∈ row.cells, cell.IsWhole :=
    Csv.isEncodable_iff.mp (by decide)
  obtain ⟨bytes, hbytes⟩ := (hexported _ _ _ (canSave_out _)).1.mpr hwhole
  obtain ⟨other, hother⟩ := (hempty _ _ _ (canSave_out _)).1.mpr (by simp [TableRow.table])
  obtain ⟨s, hs, hdecode⟩ := hread _ _ _ _ hbytes
  refine ⟨bytes, other, s, hbytes, hother, ?_, hs, hdecode, ?_⟩
  · exact hdistinct [] _ _ _ _ _ _ _ _ hbytes hother (by decide)
  · rw [hspelled _ (Csv.spells_write _ _), hdecode]

def halvedOutcome : DependencyOutcome :=
  ⟨⟨"serde", [.half ⟨0, by decide⟩], true⟩, .missing, none, none, none⟩

/-- Its table ends the run, and its file is that of the table of no outcomes, with nothing but the
header. -/
theorem table_of_half_not_readBack :
    (writeTable homelessWorld (.asWritten "out") (TableRow.table [halvedOutcome]) ⟨[]⟩).2.result =
        .error .unencodable ∧
      ∃ bytes s, (writeTable homelessWorld (.asWritten "out") (TableRow.table [halvedOutcome]) ⟨[]⟩).1.entryAt
          (tablePlace homelessWorld (.asWritten "out")) = some (.file bytes) ∧
        Exports homelessWorld ⟨[]⟩ (.asWritten "out") (TableRow.table []) bytes ∧
        Text.ofBytes? bytes = some s ∧ Csv.decode s = some [TableRow.columns] ∧
        Csv.decode s ≠ some (TableRow.withHeader (TableRow.table [halvedOutcome])) := by
  obtain ⟨_, hentry⟩ := (canSave_out (TableRow.table [halvedOutcome])).writeTable_eq
  have hsame : Csv.bytes homelessWorld.quotesToo (TableRow.table [halvedOutcome]) =
      Csv.bytes homelessWorld.quotesToo (TableRow.table []) := by cbv
  obtain ⟨bytes, hbytes⟩ := (canSave_out (TableRow.table [])).exports_iff.mpr (by decide)
  have hheader := (Csv.spells_write homelessWorld.quotesToo (TableRow.table [])).decode_eq
  have hempty : bytes = Csv.bytes homelessWorld.quotesToo (TableRow.table []) :=
    Option.some.inj (hbytes.canSave.2.symm.trans (Csv.bytes?_write _ (by decide)))
  refine ⟨?_, bytes, Csv.write homelessWorld.quotesToo (TableRow.table []), ?_, hbytes,
    Text.ofBytes?_eq_some_iff.mpr hbytes.canSave.2,
    hheader, ?_⟩
  · exact (canSave_out _).unencodable (by decide)
  · rw [hentry, hsame, hempty]
  · rw [hheader]
    decide

end Artifact

end CrateGuard
