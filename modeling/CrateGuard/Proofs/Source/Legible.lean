import Mathlib
import CrateGuard.Proofs.Json.Limits
import CrateGuard.Proofs.Settings.Loading
import CrateGuard.Proofs.Text.Encoded
import CrateGuard.Settings.Policy
import CrateGuard.Settings.Watchlist
import CrateGuard.Source.Evidence

/-! Whether the content of a file gets an answer. A reader of settings or evidence gives a value or
one of its own faults if and only if the bytes are UTF-8 and JSON reading comes to a value or a
problem. The other contents crash it: bytes that are no text, numerals beyond the limit and nesting
beyond the limit. -/

namespace CrateGuard

/-- Bytes of a text whose reading as JSON comes to a value or a problem. -/
def IsLegible (bytes : ByteArray) : Prop :=
  ∃ s read, s.bytes? = some bytes ∧ Json.decode Json.nestingLimit s = .ok read

private theorem isLegible_iff {bytes : ByteArray} :
    IsLegible bytes ↔ ∃ s read, textOfBytes bytes = .ok s ∧ Json.decode Json.nestingLimit s = .ok read := by
  have hunified (s : Text) :
      (∃ read, Json.decode Json.nestingLimit s.unifyNewlines = .ok read) ↔
        ∃ read, Json.decode Json.nestingLimit s = .ok read := by
    have h := Json.decode_unifyNewlines Json.nestingLimit s
    constructor
    · rintro ⟨read, hread⟩
      rw [hread] at h
      obtain ⟨other, hother, _⟩ := map_eq_ok.mp h.symm
      exact ⟨other, hother⟩
    · rintro ⟨read, hread⟩
      rw [hread] at h
      obtain ⟨other, hother, _⟩ := map_eq_ok.mp h
      exact ⟨other, hother⟩
  constructor
  · rintro ⟨s, read, hbytes, hread⟩
    obtain ⟨other, hother⟩ := (hunified s).mpr ⟨read, hread⟩
    exact ⟨_, other, textOfBytes_eq_ok hbytes, hother⟩
  · rintro ⟨s, read, htext, hread⟩
    unfold textOfBytes at htext
    split at htext
    · rename_i t ht
      cases htext
      obtain ⟨other, hother⟩ := (hunified t).mp ⟨read, hread⟩
      exact ⟨t, other, Text.ofBytes?_eq_some_iff.mp ht, hother⟩
    · cases htext

namespace Run
variable {α β : Type}

/-- A run that gives a result. -/
def Completes (run : Run α) : Prop := ∃ a, run.result = .ok a

private theorem completes_pure (a : α) : (Pure.pure a : Run α).Completes := ⟨a, rfl⟩

/-- What goes on to a result whatever it is given completes if its start does. -/
private theorem completes_bind_iff {x : Run α} {f : α → Run β} (h : ∀ a, (f a).Completes) :
    (x >>= f).Completes ↔ x.Completes := by
  unfold Completes
  rw [result_bind]
  constructor
  · rintro ⟨b, hb⟩
    obtain ⟨a, ha, _⟩ := bind_eq_ok.mp hb
    exact ⟨a, ha⟩
  · rintro ⟨a, ha⟩
    obtain ⟨b, hb⟩ := h a
    exact ⟨b, by rw [ha, ok_bind, hb]⟩

end Run

section
variable {files : FileTree} {path : Path} {bytes : ByteArray}

/-- Where the bytes are read as JSON and nothing else, they decide whether there is an answer. -/
private theorem completes_iff_isLegible {α : Type} {run : Run α}
    {answer : Except (Json.Problem × Json.Position) Json → α}
    (hrun : run.result = textOfBytes bytes >>= fun s => (Json.decode Json.nestingLimit s).map answer) :
    run.Completes ↔ IsLegible bytes := by
  rw [isLegible_iff, Run.Completes, hrun]
  constructor
  · rintro ⟨a, ha⟩
    obtain ⟨s, hs, ha⟩ := bind_eq_ok.mp ha
    obtain ⟨read, hread, _⟩ := map_eq_ok.mp ha
    exact ⟨s, read, hs, hread⟩
  · rintro ⟨s, read, hs, hread⟩
    exact ⟨answer read, by rw [hs, ok_bind, hread]; rfl⟩

private theorem Settings.completes_load_iff {α : Type} {ofJson : Json → Except SettingsFault α}
    {amount : α → String}
    {place : ShownPath} : (load ofJson amount files place).Completes ↔ (readFile files place.path).Completes := by
  simp only [Run.Completes, result_load, map_eq_ok]
  exact ⟨fun ⟨_, read, hread, _⟩ => ⟨read, hread⟩, fun ⟨read, hread⟩ => ⟨_, read, hread, rfl⟩⟩

private theorem Settings.result_readFile (hdefect : path.defect? = none)
    (hread : files.read path = .ok bytes) :
    (readFile files path).result = textOfBytes bytes >>= fun s =>
      (Json.decode Json.nestingLimit s).map (Except.mapError fun wrong => .notJson wrong.1 wrong.2) := by
  have hbytes : bytesOfFile? files path = .ok (some bytes) := by
    rw [bytesOfFile?, hdefect, hread]
    rfl
  simp only [readFile, hbytes, Run.result_bind, Run.result_ofExcept, Run.result_log, ok_bind, Run.result_pure]
  rfl

private theorem Source.result_decode (limit : Nat) (origin s : Text) :
    (decode limit origin s).result =
      (Json.decode limit s).map (Except.mapError fun wrong => .notJson origin wrong.1 wrong.2) := by
  rw [decode, Run.result_bind, Run.result_ofExcept]
  cases Json.decode limit s <;> rfl

private theorem Source.result_valueOfFile (hdefect : path.defect? = none)
    (hread : files.read path = .ok bytes)
    (kind : EvidenceKind) :
    (valueOfFile files kind (some path)).result = textOfBytes bytes >>= fun s =>
      (Json.decode Json.nestingLimit s).map (Except.mapError fun wrong => .notJson path.text wrong.1 wrong.2) := by
  simp only [valueOfFile, textOfFile, hdefect, hread, Run.result_bind, Run.result_ofExcept]
  cases textOfBytes bytes with
  | error crash => rfl
  | ok s => exact result_decode _ path.text s

variable {s : String} {value : Json}

/-- A settings file that holds a string gives the value the string stands for. -/
theorem Settings.readFile_eq_ok (hdefect : path.defect? = none)
    (hread : files.read path = .ok s.toByteArray)
    (hvalue : Json.decode Json.nestingLimit (Text.ofString s).unifyNewlines = .ok (.ok value)) :
    (readFile files path).result = .ok (.ok value) := by
  rw [result_readFile hdefect hread, textOfBytes_eq_ok (Text.bytes?_ofString s), ok_bind, hvalue]
  rfl

/-- So does a file of evidence. -/
theorem Source.valueOfFile_eq_ok (hdefect : path.defect? = none)
    (hread : files.read path = .ok s.toByteArray)
    (hvalue : Json.decode Json.nestingLimit (Text.ofString s).unifyNewlines = .ok (.ok value)) (kind : EvidenceKind) :
    (valueOfFile files kind (some path)).result = .ok (.ok value) := by
  rw [result_valueOfFile hdefect hread, textOfBytes_eq_ok (Text.bytes?_ofString s), ok_bind, hvalue]
  rfl

end

/-- A file gets an answer from each of its readers, a value or a fault of the reader's own, if and
only if its content is legible. A text is legible if its rows of digits are short and it has no more
brackets than lists and objects may be nested. -/
theorem readers_answer_iff {files : FileTree} {path : Path} {bytes : ByteArray}
    (hdefect : path.defect? = none)
    (hread : files.read path = .ok bytes) :
    (∀ shown, (∃ answer, (Policy.load files ⟨shown, path⟩).result = .ok answer) ↔ IsLegible bytes) ∧
    (∀ shown, (∃ answer, (Watchlist.load files ⟨shown, path⟩).result = .ok answer) ↔ IsLegible bytes) ∧
    (∀ graph cargo,
      (∃ answer, ((Source.files (some path) graph).advisoryReport files cargo).result = .ok answer) ↔
        IsLegible bytes) ∧
    (∀ advisories cargo,
      (∃ answer, ((Source.files advisories (some path)).packages files cargo).result = .ok answer) ↔
        IsLegible bytes) ∧
    ∀ s, s.bytes? = some bytes → Version.HasShortRuns s → s.countP Json.isBracket ≤ Json.nestingLimit →
      IsLegible bytes := by
  refine ⟨?_, ?_, ?_, ?_, ?_⟩
  · intro shown
    exact Settings.completes_load_iff.trans (completes_iff_isLegible (Settings.result_readFile hdefect hread))
  · intro shown
    exact Settings.completes_load_iff.trans (completes_iff_isLegible (Settings.result_readFile hdefect hread))
  · intro graph cargo
    exact (Run.completes_bind_iff fun value => Run.completes_pure _).trans
      (completes_iff_isLegible (Source.result_valueOfFile hdefect hread .advisories))
  · intro advisories cargo
    exact (Run.completes_bind_iff fun value => Run.completes_pure _).trans
      (completes_iff_isLegible (Source.result_valueOfFile hdefect hread .graph))
  · intro s hbytes hruns hbrackets
    obtain ⟨read, hdecode⟩ := Json.exists_decode_of_plain hruns hbrackets
    exact ⟨s, read, hbytes, hdecode⟩

def policyFile (bytes : ByteArray) : FileTree :=
  ⟨[(⟨false, 0, ["policy.json".toByteArray.toList]⟩, .file bytes)]⟩

private theorem policyFile_read (bytes : ByteArray) :
    (policyFile bytes).read (Path.ofText "policy.json") = .ok bytes := by
  cbv

/-- A file of a bracket, closed by a carriage return and nothing else, is answered by a fault. -/
theorem readers_answer_iff_open :
    (∃ answer, (Policy.load (policyFile "[\r".toByteArray) (.asWritten "policy.json")).result = .ok answer) ∧
      ∃ answer, ((Source.files (some (Path.ofText "policy.json")) none).advisoryReport
        (policyFile "[\r".toByteArray) none).result = .ok answer := by
  obtain ⟨hpolicy, _, hreport, _, hlegible⟩ :=
    readers_answer_iff rfl (policyFile_read "[\r".toByteArray)
  have hplain : IsLegible "[\r".toByteArray := by
    refine hlegible "[\r" (Text.bytes?_ofString _) (Version.hasShortRuns_of_length (by decide)) (by decide)
  exact ⟨(hpolicy _).mpr hplain, (hreport none none).mpr hplain⟩

/-- One byte that is no text crashes all readers. -/
theorem readers_crash_on_loneByte :
    (Policy.load (policyFile ⟨#[0xFF]⟩) (.asWritten "policy.json")).result = .error .undecodable ∧
      (Watchlist.load (policyFile ⟨#[0xFF]⟩) (.asWritten "policy.json")).result = .error .undecodable ∧
      ((Source.files (some (Path.ofText "policy.json")) none).advisoryReport (policyFile ⟨#[0xFF]⟩) none).result =
        .error .undecodable ∧
      ((Source.files none (some (Path.ofText "policy.json"))).packages (policyFile ⟨#[0xFF]⟩) none).result =
        .error .undecodable := by
  have hread := policyFile_read ⟨#[0xFF]⟩
  have htext : textOfBytes ⟨#[0xFF]⟩ = .error .undecodable := by
    have hnone : Text.ofBytes? ⟨#[0xFF]⟩ = none := by decide
    rw [textOfBytes, hnone]
  have hsettings :
      (Settings.readFile (policyFile ⟨#[0xFF]⟩) (Path.ofText "policy.json")).result = .error .undecodable := by
    rw [Settings.result_readFile rfl hread, htext, error_bind]
  have hevidence (kind : EvidenceKind) :
      (Source.valueOfFile (policyFile ⟨#[0xFF]⟩) kind (some (Path.ofText "policy.json"))).result =
        .error .undecodable := by
    rw [Source.result_valueOfFile rfl hread, htext, error_bind]
  refine ⟨?_, ?_, ?_, ?_⟩
  · rw [Policy.load, Settings.result_load]
    exact congrArg (Except.map _) hsettings
  · rw [Watchlist.load, Settings.result_load]
    exact congrArg (Except.map _) hsettings
  · rw [Source.advisoryReport, Run.result_bind]
    exact congrArg (· >>= _) (hevidence .advisories)
  · rw [Source.packages, Run.result_bind]
    exact congrArg (· >>= _) (hevidence .graph)

end CrateGuard
