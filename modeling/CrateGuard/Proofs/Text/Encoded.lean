import CrateGuard.Settings.Reading
import CrateGuard.Text.Encoded

/-! The UTF-8 form of a text and the text of a UTF-8 form are inverse to each other. -/

namespace CrateGuard.Text

private theorem exists_chars_of_mapM {s : Text} {forms : List (List UInt8)}
    (h : s.mapM CodePoint.utf8? = some forms) :
    ∃ chars : List Char, s = chars.map CodePoint.char ∧ forms = chars.map String.utf8EncodeChar := by
  induction s generalizing forms with
  | nil =>
    cases h
    exact ⟨[], rfl, rfl⟩
  | cons point rest ih =>
    rw [List.mapM_cons] at h
    obtain ⟨form, hform, h⟩ := Option.bind_eq_some_iff.mp h
    obtain ⟨later, hlater, h⟩ := Option.bind_eq_some_iff.mp h
    cases h
    obtain ⟨chars, rfl, rfl⟩ := ih hlater
    cases point with
    | char c =>
      cases hform
      exact ⟨c :: chars, rfl, rfl⟩
    | half offset => cases hform

private theorem mapM_utf8?_chars (chars : List Char) :
    (chars.map CodePoint.char).mapM CodePoint.utf8? = some (chars.map String.utf8EncodeChar) := by
  induction chars with
  | nil => rfl
  | cons c rest ih =>
    rw [List.map_cons, List.mapM_cons, ih]
    rfl

theorem bytes?_eq_some_iff {s : Text} {bytes : ByteArray} :
    s.bytes? = some bytes ↔ ∃ chars : List Char, s = chars.map CodePoint.char ∧ bytes = chars.utf8Encode := by
  have hform (chars : List Char) :
      (⟨(chars.map String.utf8EncodeChar).flatten.toArray⟩ : ByteArray) = chars.utf8Encode := by
    apply ByteArray.ext
    rw [List.utf8Encode, List.data_toByteArray, List.flatMap_def]
  constructor
  · intro h
    obtain ⟨form, hutf8, rfl⟩ := Option.map_eq_some_iff.mp h
    obtain ⟨forms, hforms, rfl⟩ := Option.map_eq_some_iff.mp hutf8
    obtain ⟨chars, rfl, rfl⟩ := exists_chars_of_mapM hforms
    exact ⟨chars, rfl, hform chars⟩
  · rintro ⟨chars, rfl, rfl⟩
    rw [bytes?, utf8?, mapM_utf8?_chars, ← hform]
    rfl

theorem bytes?_ofString (string : String) : (ofString string).bytes? = some string.toByteArray :=
  bytes?_eq_some_iff.mpr ⟨string.toList, rfl, String.utf8Encode_toList.symm⟩

theorem ofString_inj {a b : String} (h : ofString a = ofString b) : a = b :=
  String.toList_inj.mp ((List.map_inj_right fun _ _ => CodePoint.char.inj).mp h)

/-- A text is read from bytes if and only if they are its UTF-8 form. -/
theorem ofBytes?_eq_some_iff {s : Text} {bytes : ByteArray} :
    ofBytes? bytes = some s ↔ s.bytes? = some bytes := by
  rw [bytes?_eq_some_iff]
  constructor
  · intro h
    obtain ⟨string, hstring, rfl⟩ := Option.map_eq_some_iff.mp h
    rw [String.fromUTF8?] at hstring
    split at hstring
    · rename_i hvalid
      cases hstring
      refine ⟨(String.fromUTF8 bytes hvalid).toList, rfl, ?_⟩
      have hencoded : (String.fromUTF8 bytes hvalid).toList.utf8Encode = bytes := String.utf8Encode_toList
      exact hencoded.symm
    · cases hstring
  · rintro ⟨chars, rfl, rfl⟩
    have hvalid : chars.utf8Encode.IsValidUTF8 := ⟨chars, rfl⟩
    rw [ofBytes?, String.fromUTF8?, dif_pos hvalid]
    change some (ofString (String.ofList chars)) = _
    rw [ofString, String.toList_ofList]

end CrateGuard.Text

namespace CrateGuard

theorem textOfBytes_eq_ok {s : Text} {bytes : ByteArray} (h : s.bytes? = some bytes) :
    textOfBytes bytes = .ok s.unifyNewlines := by
  rw [textOfBytes, Text.ofBytes?_eq_some_iff.mpr h]

end CrateGuard
