import CrateGuard.Proofs.Text.Encoded
import CrateGuard.Text.Percent

/-! Texts as segments of web addresses. A segment is made of unreserved characters and of bytes
written with a percent sign and two hexadecimal digits, so nothing in it ends a segment or begins a
query or a fragment. The bytes that a segment stands for are the UTF-8 form of the text it was made
from. -/

namespace CrateGuard.Text

inductive IsSegment : Text → Prop
  | nil : IsSegment []
  | unreserved {c : CodePoint} {rest : Text} (hc : isUnreserved c = true) (hrest : IsSegment rest) :
      IsSegment (c :: rest)
  | byte {high low : CodePoint} {rest : Text} (hhigh : (hexValue? high).isSome) (hlow : (hexValue? low).isSome)
      (hrest : IsSegment rest) : IsSegment (.char '%' :: high :: low :: rest)

private theorem hexValue?_upperHexDigit :
    ∀ value < 16, hexValue? (upperHexDigit value) = some value := by
  decide

/-- Whatever stands for itself is ASCII, so its UTF-8 form is the one byte of its code. -/
private theorem code_lt_of_isUnreserved {c : CodePoint} (h : isUnreserved c = true) :
    c.code < 128 := by
  cases c with
  | half offset => cases h
  | char letter =>
    simp only [isUnreserved, Bool.or_eq_true, beq_iff_eq, CodePoint.char.injEq] at h
    rcases h with (((halphanum | rfl) | rfl) | rfl) | rfl
    · unfold CodePoint.isAlphanum Char.isAlphanum Char.isAlpha Char.isUpper Char.isLower Char.isDigit at halphanum
      simp only [Bool.or_eq_true, Bool.and_eq_true, decide_eq_true_eq, ge_iff_le, UInt32.le_iff_toNat_le,
        Char.reduceVal, UInt32.reduceToNat] at halphanum
      change letter.val.toNat < 128
      omega
    all_goals decide

private theorem utf8?_of_code_lt {c : CodePoint} (h : c.code < 128) :
    c.utf8? = some [UInt8.ofNat c.code] := by
  cases c with
  | half offset =>
    rw [CodePoint.code] at h
    omega
  | char letter =>
    have hcode : letter.val.toNat ≤ 127 := Nat.le_of_lt_succ h
    rw [CodePoint.utf8?, String.utf8EncodeChar, if_pos hcode]
    rfl

private theorem percentBytes_cons {c : CodePoint} (h : c ≠ .char '%') (rest : Text) :
    percentBytes (c :: rest) = UInt8.ofNat c.code :: percentBytes rest := by
  rw [percentBytes]
  rintro high low after rfl rfl
  exact h rfl

private theorem percentBytes_percentByte (b : UInt8) (rest : Text) :
    percentBytes (percentByte b ++ rest) = b :: percentBytes rest := by
  have hbyte := b.toNat_lt
  have hhigh := hexValue?_upperHexDigit (b.toNat / 16) (by omega)
  have hlow := hexValue?_upperHexDigit (b.toNat % 16) (by omega)
  rw [percentByte, List.cons_append, List.cons_append, List.cons_append, List.nil_append, percentBytes, hhigh, hlow]
  dsimp only
  rw [Nat.div_add_mod', UInt8.ofNat_toNat]

private theorem percentBytes_flatMap (bytes : List UInt8) (rest : Text) :
    percentBytes (bytes.flatMap percentByte ++ rest) = bytes ++ percentBytes rest := by
  induction bytes with
  | nil => rfl
  | cons b later ih => rw [List.flatMap_cons, List.append_assoc, percentBytes_percentByte, ih, List.cons_append]

private theorem IsSegment.append_bytes (bytes : List UInt8) {rest : Text} (h : IsSegment rest) :
    IsSegment (bytes.flatMap percentByte ++ rest) := by
  induction bytes with
  | nil => exact h
  | cons b later ih =>
    have hbyte := b.toNat_lt
    refine .byte ?_ ?_ ih
    · rw [hexValue?_upperHexDigit _ (by omega)]; rfl
    · rw [hexValue?_upperHexDigit _ (by omega)]; rfl

theorem IsSegment.not_mem {mark : CodePoint} (hmark : isUnreserved mark = false)
    (hpercent : mark ≠ .char '%')
    (hhex : hexValue? mark = none) {segment : Text} (h : IsSegment segment) : mark ∉ segment := by
  induction h with
  | nil => exact List.not_mem_nil
  | @unreserved c rest hc _ ih =>
    refine List.not_mem_cons_of_ne_of_not_mem ?_ ih
    rintro rfl
    cases hmark.symm.trans hc
  | @byte high low rest hhigh hlow _ ih =>
    refine List.not_mem_cons_of_ne_of_not_mem hpercent ?_
    refine List.not_mem_cons_of_ne_of_not_mem ?_ (List.not_mem_cons_of_ne_of_not_mem ?_ ih)
    · rintro rfl
      rw [hhex] at hhigh
      cases hhigh
    · rintro rfl
      rw [hhex] at hlow
      cases hlow

/-- Each code point of a text becomes a part of the segment that stands for its UTF-8 form. -/
private theorem percentForm?_eq_some {c : CodePoint} {form : Text}
    (h : percentForm? c = some form) :
    ∃ bytes, c.utf8? = some bytes ∧ ∀ rest, percentBytes (form ++ rest) = bytes ++ percentBytes rest ∧
      (IsSegment rest → IsSegment (form ++ rest)) := by
  unfold percentForm? at h
  split at h
  next hc =>
    cases h
    have hmark : c ≠ .char '%' := by
      rintro rfl
      cases hc
    exact ⟨_, utf8?_of_code_lt (code_lt_of_isUnreserved hc), fun rest =>
      ⟨percentBytes_cons hmark rest, .unreserved hc⟩⟩
  next =>
    obtain ⟨bytes, hbytes, rfl⟩ := Option.map_eq_some_iff.mp h
    exact ⟨bytes, hbytes, fun rest => ⟨percentBytes_flatMap bytes rest, IsSegment.append_bytes bytes⟩⟩

private theorem percentEncode?_cons (c : CodePoint) (rest : Text) :
    percentEncode? (c :: rest) = (percentForm? c).bind fun form => (percentEncode? rest).map (form ++ ·) := by
  rw [percentEncode?, percentEncode?, List.mapM_cons]
  cases percentForm? c with
  | none => rfl
  | some form => cases rest.mapM percentForm? <;> rfl

/-- A segment stands for the bytes of the text that it was made from. -/
theorem percentEncode?_eq_some {s segment : Text} (h : percentEncode? s = some segment) :
    IsSegment segment ∧ s.utf8? = some (percentBytes segment) := by
  induction s generalizing segment with
  | nil =>
    cases h
    exact ⟨.nil, rfl⟩
  | cons c rest ih =>
    rw [percentEncode?_cons] at h
    obtain ⟨form, hform, h⟩ := Option.bind_eq_some_iff.mp h
    obtain ⟨later, hlater, rfl⟩ := Option.map_eq_some_iff.mp h
    obtain ⟨hsegment, hutf8⟩ := ih hlater
    obtain ⟨bytes, hbytes, hstands⟩ := percentForm?_eq_some hform
    refine ⟨(hstands later).2 hsegment, ?_⟩
    obtain ⟨forms, hforms, hflat⟩ := Option.map_eq_some_iff.mp hutf8
    rw [(hstands later).1, ← hflat, utf8?, List.mapM_cons, hbytes, hforms]
    rfl

example : percentEncode? "a/é" = some "a%2F%C3%A9" := by decide

private theorem exists_percentForm? (letter : Char) :
    ∃ form, percentForm? (.char letter) = some form := by
  unfold percentForm?
  split
  · exact ⟨_, rfl⟩
  · exact ⟨_, rfl⟩

theorem exists_percentEncode? (s : String) :
    ∃ segment, percentEncode? (ofString s) = some segment := by
  rw [ofString]
  induction s.toList with
  | nil => exact ⟨_, rfl⟩
  | cons letter rest ih =>
    obtain ⟨later, hlater⟩ := ih
    obtain ⟨form, hform⟩ := exists_percentForm? letter
    refine ⟨form ++ later, ?_⟩
    rw [List.map_cons, percentEncode?_cons, hform, hlater]
    rfl

/-- From its segment a text is read again. -/
theorem ofBytes?_percentBytes {s segment : Text} (h : percentEncode? s = some segment) :
    ofBytes? ⟨(percentBytes segment).toArray⟩ = some s := by
  rw [ofBytes?_eq_some_iff, bytes?, (percentEncode?_eq_some h).2]
  rfl

end CrateGuard.Text
