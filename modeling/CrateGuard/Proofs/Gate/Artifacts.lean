import CrateGuard.Gate.Artifacts
import CrateGuard.Proofs.Files.Path
import CrateGuard.Proofs.Files.Tree
import CrateGuard.Proofs.Gate.Shown

/-! What leaving an artifact comes to. It is written, it is refused with one line on the error
stream, or it ends the run; nothing else is shown or asked for. The summary changes the file at its
path, by what is appended; the table changes the file at its place, and directories that it needs
are made where nothing stands. -/

namespace CrateGuard

/-- The run leaves at most one message, a refusal, apart from records that are not shown. -/
def Run.IsAside {α : Type} (isRefusal : Message → Prop) (run : Run α) : Prop :=
  ∃ said : List Message, said.length ≤ 1 ∧ (∀ message ∈ said, isRefusal message) ∧
    run.trace.settled .bare = ⟨said, [], [], []⟩

theorem Run.isAside_of_isQuiet {α : Type} {isRefusal : Message → Prop} {run : Run α}
    (h : run.IsQuiet .bare) :
    run.IsAside isRefusal :=
  ⟨[], Nat.zero_le _, by simp, h⟩

theorem Run.IsAside.imp {α : Type} {isRefusal other : Message → Prop} {run : Run α}
    (h : run.IsAside isRefusal)
    (hother : ∀ message, isRefusal message → other message) : run.IsAside other := by
  obtain ⟨said, hlength, hsaid, htrace⟩ := h
  exact ⟨said, hlength, fun message hmem => hother message (hsaid message hmem), htrace⟩

private theorem Run.isAside_say {isRefusal : Message → Prop} {line : Text}
    (h : isRefusal (.err line)) :
    (Run.say [.err line]).IsAside isRefusal :=
  ⟨[.err line], Nat.le_refl _, by simpa using h, rfl⟩

namespace Artifact

section Summary
variable {files : FileTree} {place : ShownPath} {summary : Option Text} {other : Place}

def opens (files : FileTree) (path : Path) : Bool :=
  path.defect?.isNone && (files.append path ByteArray.empty).isOk

inductive SummaryEnd (files : FileTree) (place : ShownPath) (summary : Option Text) : FileTree × Run Unit → Prop
  | defect {defect : PathDefect} (hdefect : place.path.defect? = some defect) :
    SummaryEnd files place summary (files, Run.crash defect.crash)
  | refused {fault : FileFault} (hdefect : place.path.defect? = none)
    (hopen : files.append place.path ByteArray.empty = .error fault) :
    SummaryEnd files place summary (files, Run.say [summaryRefused place fault])
  | noBytes {opened : FileTree} {crash : Crash} (hdefect : place.path.defect? = none)
    (hopen : files.append place.path ByteArray.empty = .ok opened) (hbytes : summaryBytes summary = .error crash) :
    SummaryEnd files place summary (opened, Run.crash crash)
  | written {opened written : FileTree} {bytes : ByteArray} (hdefect : place.path.defect? = none)
    (hopen : files.append place.path ByteArray.empty = .ok opened) (hbytes : summaryBytes summary = .ok bytes)
    (hwrite : files.append place.path bytes = .ok written) :
    SummaryEnd files place summary
      (written, Run.log .info "dependency_gate.reporting" ("Appended summary to " ++ place.path.text))

private theorem appendSummary_end (files : FileTree) (place : ShownPath) (summary : Option Text) :
    SummaryEnd files place summary (appendSummary place summary files) := by
  unfold appendSummary
  cases hdefect : place.path.defect? with
  | some defect => exact .defect hdefect
  | none =>
    cases hopen : files.append place.path ByteArray.empty with
    | error fault => exact .refused hdefect hopen
    | ok opened =>
      cases hbytes : summaryBytes summary with
      | error crash => exact .noBytes hdefect hopen hbytes
      | ok bytes =>
        -- opening appends nothing, so the bytes may as well be appended to the files as they were
        obtain ⟨written, hwrite⟩ := FileTree.exists_append_of_open hopen bytes
        have hagain : opened.append place.path bytes = .ok written := by
          rw [FileTree.append_of_open hopen, hwrite]
        simp only [hagain]
        exact .written hdefect hopen hbytes hwrite

theorem appendSummary_isAside (files : FileTree) (place : ShownPath) (summary : Option Text) :
    (appendSummary place summary files).2.IsAside fun message => ∃ fault, message = summaryRefused place fault := by
  have hend := appendSummary_end files place summary
  generalize appendSummary place summary files = ended at hend
  cases hend with
  | defect hdefect => exact Run.isAside_of_isQuiet rfl
  | refused hdefect hopen => exact Run.isAside_say ⟨_, rfl⟩
  | noBytes hdefect hopen hbytes => exact Run.isAside_of_isQuiet rfl
  | written hdefect hopen hbytes hwrite => exact Run.isAside_of_isQuiet rfl

theorem exists_summaryBytes_iff :
    (∃ bytes, summaryBytes summary = .ok bytes) ↔ ∃ text bytes, summary = some text ∧ text.bytes? = some bytes := by
  cases summary with
  | none => simp [summaryBytes]
  | some text => cases hbytes : text.bytes? <;> simp [summaryBytes, hbytes]

/-- A summary lets the run go on if and only if its path can be given to the file system and, once
its file is open, there are bytes to append. -/
theorem appendSummary_result_iff :
    (appendSummary place summary files).2.result = .ok () ↔
      place.path.defect? = none ∧ (opens files place.path = true → ∃ bytes, summaryBytes summary = .ok bytes) := by
  have hend := appendSummary_end files place summary
  generalize appendSummary place summary files = ended at hend
  cases hend with
  | defect hdefect => simp [hdefect, Run.crash]
  | refused hdefect hopen => simp [hdefect, opens, hopen, Except.isOk, Except.toBool]
  | noBytes hdefect hopen hbytes => simp [hdefect, opens, hopen, hbytes, Run.crash, Except.isOk, Except.toBool]
  | written hdefect hopen hbytes hwrite => simp [hdefect, hbytes]

private theorem entryAt_appendSummary_of_ne (h : other ≠ place.path.place) :
    (appendSummary place summary files).1.entryAt other = files.entryAt other := by
  have hend := appendSummary_end files place summary
  generalize appendSummary place summary files = ended at hend
  cases hend with
  | defect hdefect => rfl
  | refused hdefect hopen => rfl
  | noBytes hdefect hopen hbytes => exact FileTree.entryAt_modify_of_ne hopen h
  | written hdefect hopen hbytes hwrite => exact FileTree.entryAt_modify_of_ne hwrite h

def appended? (files : FileTree) (place : ShownPath) (summary : Option Text) : Option ByteArray :=
  if opens files place.path then (summaryBytes summary).toOption else none

/-- At the place of the summary nothing is lost. -/
theorem bytesAt_appendSummary :
    (appendSummary place summary files).1.bytesAt place.path.place =
      files.bytesAt place.path.place ++ (appended? files place summary).getD ByteArray.empty := by
  have hend := appendSummary_end files place summary
  generalize appendSummary place summary files = ended at hend
  cases hend with
  | defect hdefect => simp [appended?, opens, hdefect]
  | refused hdefect hopen => simp [appended?, opens, hopen, Except.isOk, Except.toBool]
  | noBytes hdefect hopen hbytes =>
    rw [FileTree.bytesAt_append_self hopen]
    simp [appended?, hbytes, Except.toOption]
  | written hdefect hopen hbytes hwrite =>
    rw [FileTree.bytesAt_append_self hwrite]
    simp [appended?, opens, hdefect, hopen, hbytes, Except.isOk, Except.toBool, Except.toOption]

/-- A file stays a file, and grows only if it is that of the summary, by the summary. -/
theorem entryAt_appendSummary_of_file {bytes : ByteArray} (place : ShownPath)
    (summary : Option Text)
    (h : files.entryAt other = some (.file bytes)) :
    ∃ more, (appendSummary place summary files).1.entryAt other = some (.file (bytes ++ more)) ∧
      (more = ByteArray.empty ∨ other = place.path.place ∧ summaryBytes summary = .ok more) := by
  by_cases hother : other = place.path.place
  · subst hother
    have hbytesAt : files.bytesAt place.path.place = bytes := by rw [FileTree.bytesAt, h]
    have hend := appendSummary_end files place summary
    generalize appendSummary place summary files = ended at hend
    cases hend with
    | defect hdefect => exact ⟨ByteArray.empty, by rw [h, ByteArray.append_empty], .inl rfl⟩
    | refused hdefect hopen => exact ⟨ByteArray.empty, by rw [h, ByteArray.append_empty], .inl rfl⟩
    | noBytes hdefect hopen hbytes =>
      exact ⟨ByteArray.empty, by rw [FileTree.entryAt_modify_self hopen, hbytesAt], .inl rfl⟩
    | written hdefect hopen hbytes hwrite =>
      exact ⟨_, by rw [FileTree.entryAt_modify_self hwrite, hbytesAt], .inr ⟨rfl, hbytes⟩⟩
  · refine ⟨ByteArray.empty, ?_, .inl rfl⟩
    rw [entryAt_appendSummary_of_ne hother, h, ByteArray.append_empty]

theorem isTooDeep_appendSummary {path : Path} (place : ShownPath) (summary : Option Text)
    (h : files.isTooDeep path = false) : (appendSummary place summary files).1.isTooDeep path = false := by
  have hend := appendSummary_end files place summary
  generalize appendSummary place summary files = ended at hend
  cases hend with
  | defect hdefect => exact h
  | refused hdefect hopen => exact h
  | noBytes hdefect hopen hbytes => exact FileTree.isTooDeep_modify hopen h
  | written hdefect hopen hbytes hwrite => exact FileTree.isTooDeep_modify hwrite h

end Summary

section Table
variable {world : World} {files : FileTree} {directory : ShownPath} {rows : List TableRow} {place : Place}

def tableTarget (directory : ShownPath) : Text :=
  (directory.path.below [tableName]).text

/-- The place of the table. -/
def tablePlace (world : World) (directory : ShownPath) : Place :=
  (Path.ofText (world.expandHome (tableTarget directory))).place

inductive TableEnd (world : World) (files : FileTree) (directory : ShownPath) (rows : List TableRow) :
    FileTree × Run Unit → Prop
  | defect {defect : PathDefect} (hdefect : directory.path.defect? = some defect) :
    TableEnd world files directory rows (files, Run.crash defect.crash)
  | tooDeep (hdefect : directory.path.defect? = none) (hdeep : files.isTooDeep directory.path = true) :
    TableEnd world files directory rows (files, Run.crash .pathTooDeep)
  | refused {made : FileTree} {error : FileError} (hdefect : directory.path.defect? = none)
    (hdeep : files.isTooDeep directory.path = false)
    (hmake : files.ensureDirectories directory.path = (made, some error)) :
    TableEnd world files directory rows (made, Run.say [tableRefused directory (.refused error)])
  | crashed {made : FileTree} {crash : Crash} (hdefect : directory.path.defect? = none)
    (hdeep : files.isTooDeep directory.path = false) (hmake : files.ensureDirectories directory.path = (made, none))
    (hsave : save world made (tableTarget directory) rows = .error crash) :
    TableEnd world files directory rows (made, Run.crash crash)
  | unsaved {made : FileTree} {fault : TableFault} (hdefect : directory.path.defect? = none)
    (hdeep : files.isTooDeep directory.path = false) (hmake : files.ensureDirectories directory.path = (made, none))
    (hsave : save world made (tableTarget directory) rows = .ok (.error fault)) :
    TableEnd world files directory rows (made, Run.say [tableRefused directory fault])
  | saved {made written : FileTree} (hdefect : directory.path.defect? = none)
    (hdeep : files.isTooDeep directory.path = false) (hmake : files.ensureDirectories directory.path = (made, none))
    (hsave : save world made (tableTarget directory) rows = .ok (.ok written)) :
    TableEnd world files directory rows (written, concludeTable (directory.path.below [tableName]) rows)

theorem writeTable_end (world : World) (files : FileTree) (directory : ShownPath)
    (rows : List TableRow) :
    TableEnd world files directory rows (writeTable world directory rows files) := by
  unfold writeTable
  cases hdefect : directory.path.defect? with
  | some defect => exact .defect hdefect
  | none =>
    cases hdeep : files.isTooDeep directory.path with
    | true => exact .tooDeep hdefect hdeep
    | false =>
      simp only [Bool.false_eq_true, if_false, makeAndWriteTable]
      cases hmake : files.ensureDirectories directory.path with
      | mk made refusal =>
        cases refusal with
        | some error => exact .refused hdefect hdeep hmake
        | none =>
          cases hsave : save world made (tableTarget directory) rows with
          | error crash =>
            rw [tableTarget] at hsave
            simp only [hsave]
            exact .crashed hdefect hdeep hmake hsave
          | ok answer =>
            rw [tableTarget] at hsave
            cases answer with
            | error fault =>
              simp only [hsave]
              exact .unsaved hdefect hdeep hmake hsave
            | ok written =>
              simp only [hsave]
              exact .saved hdefect hdeep hmake hsave

/-- A table whose path is no address is saved in the file at its place. -/
theorem write_of_save {made written : FileTree} {target : Text}
    (haddress : Address.isAddress target = false)
    (h : save world made target rows = .ok (.ok written)) :
    made.write (Path.ofText (world.expandHome target)) (Csv.bytes world.quotesToo rows) = .ok written := by
  unfold save at h
  split at h
  · cases h
  · rw [haddress, if_neg Bool.false_ne_true] at h
    have hfile := Except.ok.inj h
    unfold saveInFile at hfile
    split at hfile
    · cases hfile
    · cases hwrite : made.write (Path.ofText (world.expandHome target)) (Csv.bytes world.quotesToo rows) with
      | error fault =>
        rw [hwrite] at hfile
        cases hfile
      | ok other =>
        rw [hwrite] at hfile
        cases hfile
        rfl

/-- A table is saved in the file at its place and nowhere else. -/
private theorem save_eq_ok {made written : FileTree} {target : Text}
    (h : save world made target rows = .ok (.ok written)) :
    written = made ∨
      made.write (Path.ofText (world.expandHome target)) (Csv.bytes world.quotesToo rows) = .ok written := by
  cases haddress : Address.isAddress target with
  | false => exact .inr (write_of_save haddress h)
  | true =>
    left
    rw [save, haddress, if_pos rfl] at h
    split at h
    · cases h
    · split at h
      · cases h
      · cases h
      · cases h
        rfl

theorem concludeTable_isQuiet (path : Path) (rows : List TableRow) :
    (concludeTable path rows).IsQuiet .bare := by
  unfold concludeTable
  split <;> rfl

theorem concludeTable_result_iff {path : Path} :
    (concludeTable path rows).result = .ok () ↔ Csv.isEncodable rows = true := by
  unfold concludeTable
  split
  · simp_all
  · simp_all [Run.crash]

theorem writeTable_isAside (world : World) (files : FileTree) (directory : ShownPath)
    (rows : List TableRow) :
    (writeTable world directory rows files).2.IsAside fun message =>
      ∃ fault, message = tableRefused directory fault := by
  have hend := writeTable_end world files directory rows
  generalize writeTable world directory rows files = ended at hend
  cases hend with
  | defect hdefect => exact Run.isAside_of_isQuiet rfl
  | tooDeep hdefect hdeep => exact Run.isAside_of_isQuiet rfl
  | refused hdefect hdeep hmake => exact Run.isAside_say ⟨_, rfl⟩
  | crashed hdefect hdeep hmake hsave => exact Run.isAside_of_isQuiet rfl
  | unsaved hdefect hdeep hmake hsave => exact Run.isAside_say ⟨_, rfl⟩
  | saved hdefect hdeep hmake hsave => exact Run.isAside_of_isQuiet (concludeTable_isQuiet _ rows)

/-- A table lets the run go on if and only if the path of its directory can be given to the file
system and lies not too deep and, once the directory is there, saving comes to an end, with all rows
written if it succeeds. -/
theorem writeTable_result_iff :
    (writeTable world directory rows files).2.result = .ok () ↔
      directory.path.defect? = none ∧ files.isTooDeep directory.path = false ∧
        ∀ made, files.ensureDirectories directory.path = (made, none) →
          ∃ saved, save world made (tableTarget directory) rows = .ok saved ∧
            ∀ written, saved = .ok written → Csv.isEncodable rows = true := by
  have hend := writeTable_end world files directory rows
  generalize writeTable world directory rows files = ended at hend
  cases hend with
  | defect hdefect => simp [hdefect, Run.crash]
  | tooDeep hdefect hdeep => simp [hdeep, Run.crash]
  | refused hdefect hdeep hmake => simp [hdefect, hdeep, hmake]
  | crashed hdefect hdeep hmake hsave => simp [hdefect, hdeep, hmake, hsave, Run.crash]
  | unsaved hdefect hdeep hmake hsave => simp [hdefect, hdeep, hmake, hsave]
  | saved hdefect hdeep hmake hsave => simp [hdefect, hdeep, hmake, hsave, concludeTable_result_iff]

/-- Apart from its own place a table changes only what `ensureDirectories` does. -/
private theorem entryAt_writeTable (files : FileTree) (rows : List TableRow)
    (hplace : place ≠ tablePlace world directory) :
    (writeTable world directory rows files).1.entryAt place = files.entryAt place ∨
      (writeTable world directory rows files).1.entryAt place =
        (files.ensureDirectories directory.path).1.entryAt place := by
  have hend := writeTable_end world files directory rows
  generalize writeTable world directory rows files = ended at hend
  cases hend with
  | defect hdefect => exact .inl rfl
  | tooDeep hdefect hdeep => exact .inl rfl
  | refused hdefect hdeep hmake => exact .inr (by rw [hmake])
  | crashed hdefect hdeep hmake hsave => exact .inr (by rw [hmake])
  | unsaved hdefect hdeep hmake hsave => exact .inr (by rw [hmake])
  | saved hdefect hdeep hmake hsave =>
    right
    rw [hmake]
    rcases save_eq_ok hsave with rfl | hwrite
    · rfl
    · exact FileTree.entryAt_modify_of_ne hwrite hplace

theorem entryAt_writeTable_of_some {entry : Entry} (hplace : place ≠ tablePlace world directory)
    (h : files.entryAt place = some entry) :
    (writeTable world directory rows files).1.entryAt place = some entry := by
  have hmade : (files.ensureDirectories directory.path).1.entryAt place = some entry :=
    FileTree.entryAt_ensureDirectories_of_some h
  rcases entryAt_writeTable files rows hplace with hsame | hsame
  · rw [hsame, h]
  · rw [hsame, hmade]

theorem entryAt_writeTable_of_ne (hplace : place ≠ tablePlace world directory)
    (hway : ∀ levels, (directory.path.above levels).place ≠ place) :
    (writeTable world directory rows files).1.entryAt place = files.entryAt place := by
  rcases entryAt_writeTable files rows hplace with hsame | hsame
  · exact hsame
  · rw [hsame, FileTree.entryAt_ensureDirectories_of_ne hway]

/-- Where no address is, saving comes to an end. -/
theorem save_of_not_address {target : Text} (hmalformed : Address.isMalformed target = false)
    (haddress : Address.isAddress target = false) :
    save world files target rows =
      .ok (saveInFile files (Path.ofText (world.expandHome target)) (Csv.bytes world.quotesToo rows)) := by
  simp [save, hmalformed, haddress]

/-- Unless a tilde stands in front, the table's place is below its directory under the table's
name. -/
theorem tablePlace_eq {s : Text} (hpath : directory.path = Path.ofText s)
    (htilde : (tableTarget directory).head? ≠ some (.char '~')) :
    tablePlace world directory = (directory.path.below [tableName]).place := by
  have hname : ∀ part ∈ [tableName], part ≠ [] ∧ part ≠ "." ∧ CodePoint.char '/' ∉ part := by
    rw [List.forall_mem_singleton]
    decide
  have hnormal : (directory.path.below [tableName]).IsNormal := (hpath ▸ Path.isNormal_ofText s).below hname
  have hexpand : world.expandHome (tableTarget directory) = tableTarget directory := by
    unfold World.expandHome
    split
    · rename_i heq
      rw [heq] at htilde
      exact absurd rfl htilde
    · rfl
  rw [tablePlace, hexpand, tableTarget, hnormal.ofText_text]

end Table

end Artifact

end CrateGuard
