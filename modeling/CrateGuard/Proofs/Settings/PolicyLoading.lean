import CrateGuard.Proofs.Settings.PolicyEntries
import CrateGuard.Proofs.Source.Legible

/-! Which policy files are accepted, and what is made of them: the exceptions are those of the file,
one by one and in order, and the window is the one that the file sets or the usual one. -/

namespace CrateGuard.Policy

structure Describes (raw : Json) (entry : AllowEntry) : Prop where
  id_eq : entry.id = raw.member "id"
  none_iff : entry.reviewBy = none ↔ (raw.member "review_by").filled = false
  some_iff : ∀ date, entry.reviewBy = some date ↔ ∃ s, raw.member "review_by" = .str s ∧ Date.read? s = some date

private theorem dateAt_eq_some_iff {value : Json} {date : Date} :
    dateAt value = some date ↔ ∃ s, value = .str s ∧ Date.read? s = some date := by
  cases value <;> simp [dateAt]

theorem IsEntry.describes {raw : Json} (h : IsEntry raw) : Describes raw (entryAt raw) where
  id_eq := rfl
  none_iff := by
    constructor
    · intro hnone
      refine h.reviewBy.resolve_right ?_
      rintro ⟨s, date, hs, hdate⟩
      cases hnone.symm.trans (dateAt_eq_some_iff.mpr ⟨s, hs, hdate⟩)
    · exact dateAt_of_not_filled
  some_iff _ := dateAt_eq_some_iff

inductive Refuses (value : Json) : SettingsFault → Prop
  | notObject (h : ∀ fields, value ≠ .obj fields) : Refuses value .notObject
  | metadata (h : ¬(value.member "metadata").IsSection) : Refuses value .metadataNotObject
  | window (h : ∀ days, ¬HasWindow (value.member "metadata") days) : Refuses value .badWindow
  | allow (h : ¬(value.member "allow").IsListing) : Refuses value .allowNotList
  | entry {index : Nat} {raw : Json} (hraw : (value.member "allow").elements[index]? = some raw)
    (h : ∀ fields, raw ≠ .obj fields) : Refuses value (.entryNotObject index)
  | id {index : Nat} {raw : Json} (hraw : (value.member "allow").elements[index]? = some raw)
    (h : ∀ s, raw.member "id" = .str s → s = []) : Refuses value (.entryWithoutId index)
  | duplicate {earlier later : Nat} {raw other : Json} {s : Text} (hlt : earlier < later)
    (hraw : (value.member "allow").elements[earlier]? = some raw) (hid : raw.member "id" = .str s)
    (hother : (value.member "allow").elements[later]? = some other) (hsame : other.member "id" = .str s) :
    Refuses value (.duplicateEntry s)
  | reviewBy {index : Nat} {raw : Json} (hraw : (value.member "allow").elements[index]? = some raw)
    (hfilled : (raw.member "review_by").filled = true) (h : dateAt (raw.member "review_by") = none) :
    Refuses value (.badReviewDate index (raw.member "review_by"))

section
variable {value : Json} {fault : SettingsFault}

private theorem metadataOf_eq_error {raw : Json} (h : metadataOf raw = .error fault) :
    ¬raw.IsSection ∧ fault = .metadataNotObject := by
  cases raw <;> simp_all [metadataOf, Json.IsSection, eq_comm]

private theorem windowOf_eq_error {metadata : Json} (h : windowOf metadata.entries = .error fault) :
    (∀ days, ¬HasWindow metadata days) ∧ fault = .badWindow := by
  constructor
  · intro days hdays
    cases h.symm.trans (windowOf_eq_ok_iff.mpr hdays)
  · unfold windowOf at h
    split at h
    · cases h
    · split at h <;> cases h
      rfl

private theorem rawEntries_eq_error {raw : Json} (h : rawEntries raw = .error fault) :
    ¬raw.IsListing ∧ fault = .allowNotList := by
  cases raw <;> simp_all [rawEntries, Json.IsListing, eq_comm]

private theorem reviewDate_eq_error {index : Nat} {raw : Json}
    (h : reviewDate index raw = .error fault) :
    raw.filled = true ∧ dateAt raw = none ∧ fault = .badReviewDate index raw := by
  unfold reviewDate at h
  cases hfilled : raw.filled with
  | false => simp [hfilled] at h
  | true =>
    cases raw with
    | str s => cases hread : Date.read? s <;> simp_all [dateAt]
    | _ => simp_all [dateAt]

private theorem readEntry_refuses {index : Nat} {seen : List Json} {raw : Json}
    (hraw : (value.member "allow").elements[index]? = some raw)
    (hseen : ∀ id ∈ seen, ∃ earlier before, earlier < index ∧ (value.member "allow").elements[earlier]? = some before ∧
      before.member "id" = id)
    (h : readEntry index seen raw = .error fault) : Refuses value fault := by
  cases raw with
  | obj fields =>
    cases hid : Json.field fields "id" with
    | str id =>
      have hmember : (Json.obj fields).member "id" = .str id := hid
      simp only [readEntry, hid] at h
      split_ifs at h with hempty hrepeated
      · cases h
        refine .id hraw fun s hs => ?_
        cases hmember.symm.trans hs
        exact hempty
      · cases h
        have hmem : .str id ∈ seen := by simpa using hrepeated
        obtain ⟨earlier, before, hlt, hbefore, hsame⟩ := hseen _ hmem
        exact .duplicate hlt hbefore hsame hraw hmember
      · obtain ⟨hfilled, hnone, rfl⟩ := reviewDate_eq_error (map_eq_error.mp h)
        exact .reviewBy hraw hfilled hnone
    | _ =>
      simp only [readEntry, hid] at h
      cases h
      refine .id hraw fun s hs => ?_
      cases hid.symm.trans hs
  | _ =>
    cases h
    exact .entry hraw (by simp)

private theorem readEntries_refuses {index : Nat} {seen rest : List Json}
    (hrest : (value.member "allow").elements.drop index = rest)
    (hseen : ∀ id ∈ seen, ∃ earlier before, earlier < index ∧ (value.member "allow").elements[earlier]? = some before ∧
      before.member "id" = id)
    (h : readEntries index seen rest = .error fault) : Refuses value fault := by
  induction rest generalizing index seen with
  | nil => cases h
  | cons raw later ih =>
    obtain ⟨hraw, hlater⟩ := Json.elements_of_drop_eq_cons hrest
    rcases bind_eq_error.mp h with h | ⟨entry, hentry, h⟩
    · exact readEntry_refuses hraw hseen h
    rcases bind_eq_error.mp h with h | ⟨entries, _, h⟩
    · refine ih hlater ?_ h
      obtain ⟨_, _, rfl⟩ := readEntry_eq_ok_iff.mp hentry
      intro id hid
      rcases List.mem_cons.mp hid with rfl | hid
      · exact ⟨index, raw, Nat.lt_succ_self index, hraw, rfl⟩
      · obtain ⟨earlier, before, hlt, hbefore⟩ := hseen id hid
        exact ⟨earlier, before, Nat.lt_succ_of_lt hlt, hbefore⟩
    · cases h

/-- A refusal is about a part of the value that is not as it should be. -/
theorem ofJson_refuses (h : ofJson value = .error fault) : Refuses value fault := by
  cases value with
  | obj fields =>
    simp only [ofJson, Json.field_eq_member] at h
    rcases bind_eq_error.mp h with h | ⟨metadata, hmetadata, h⟩
    · obtain ⟨hshape, rfl⟩ := metadataOf_eq_error h
      exact .metadata hshape
    obtain ⟨_, rfl⟩ := metadataOf_eq_ok_iff.mp hmetadata
    rcases bind_eq_error.mp h with h | ⟨days, _, h⟩
    · obtain ⟨hnone, rfl⟩ := windowOf_eq_error h
      exact .window hnone
    rcases bind_eq_error.mp h with h | ⟨raw, hallow, h⟩
    · obtain ⟨hshape, rfl⟩ := rawEntries_eq_error h
      exact .allow hshape
    obtain ⟨_, rfl⟩ := rawEntries_eq_ok_iff.mp hallow
    rcases bind_eq_error.mp h with h | ⟨entries, _, h⟩
    · exact readEntries_refuses List.drop_zero (by simp) h
    · cases h
  | _ =>
    cases h
    exact .notObject (by simp)

end

section
variable {files : FileTree} {place : ShownPath} {value : Json}
variable (hvalue : (Settings.readFile files place.path).result = .ok (.ok value))
include hvalue

/-- A policy file is accepted if and only if its value has the shape of a policy, and is refused
otherwise with a fault that says what is against it. Once it is accepted, its exceptions are those
of the value one by one and in order, with a day for those that set one and for no other, and its
window is the one that the value sets, from 1 to 36500 days. -/
theorem load_follows_shape :
    ((∃ policy, (load files place).result = .ok (.ok policy)) ↔ IsPolicy value) ∧
    (¬IsPolicy value → ∃ fault, (load files place).result = .ok (.error fault) ∧ Refuses value fault) ∧
    ∀ policy, (load files place).result = .ok (.ok policy) →
      List.Forall₂ Describes (value.member "allow").elements policy.allow ∧
      HasWindow (value.member "metadata") policy.window ∧ 1 ≤ policy.window ∧ policy.window ≤ 36500 := by
  simp only [load, Settings.result_load_of_value hvalue, Except.ok.injEq]
  refine ⟨⟨?_, ?_⟩, ?_, ?_⟩
  · rintro ⟨policy, h⟩
    exact (ofJson_eq_ok_iff.mp h).1
  · intro hshape
    obtain ⟨days, hdays⟩ := hshape.window
    exact ⟨⟨_, days⟩, ofJson_eq_ok_iff.mpr ⟨hshape, hdays, rfl⟩⟩
  · intro hshape
    cases h : ofJson value with
    | error fault => exact ⟨fault, rfl, ofJson_refuses h⟩
    | ok policy => exact absurd (ofJson_eq_ok_iff.mp h).1 hshape
  · intro policy h
    obtain ⟨hshape, hwindow, hallow⟩ := ofJson_eq_ok_iff.mp h
    rw [hallow, List.forall₂_map_right_iff, List.forall₂_same]
    exact ⟨fun raw hmem => (hshape.entries raw hmem).describes, hwindow, hwindow.range⟩

end

def monthPolicy : String :=
  "\x7b\"metadata\": \x7b\"max_review_window_days\": 30\x7d, \"allow\": [\x7b\"id\": \"A\", \"review_by\": 0\x7d]\x7d"

def datelessEntry : Json :=
  .obj [("id", .str "A"), ("review_by", .int 0)]

def monthValue : Json :=
  .obj [("metadata", .obj [("max_review_window_days", .int 30)]), ("allow", .arr [datelessEntry])]

def policyFiles (bytes : ByteArray) : FileTree :=
  ⟨[(⟨false, 0, ["policy.json".toByteArray.toList]⟩, .file bytes)]⟩

/-- It is accepted with a window of 30 days. -/
theorem load_follows_shape_month :
    ∃ policy, (load (policyFiles monthPolicy.toByteArray) (.asWritten "policy.json")).result = .ok (.ok policy) ∧
      policy.window = 30 ∧ List.Forall₂ Describes [datelessEntry] policy.allow := by
  have hbytes (bytes : ByteArray) : (policyFiles bytes).read (Path.ofText "policy.json") = .ok bytes := by cbv
  have hvalue : Json.decode Json.nestingLimit (Text.ofString monthPolicy).unifyNewlines = .ok (.ok monthValue) := by cbv
  have hread : (Settings.readFile (policyFiles monthPolicy.toByteArray)
      (ShownPath.asWritten "policy.json").path).result = .ok (.ok monthValue) :=
    Settings.readFile_eq_ok rfl (hbytes _) hvalue
  obtain ⟨haccepted, _, hdescribes⟩ := load_follows_shape hread
  have hentry : IsEntry datelessEntry := ⟨⟨_, rfl⟩, ⟨"A", by decide, rfl⟩, .inl rfl⟩
  obtain ⟨policy, hpolicy⟩ := haccepted.mpr ⟨⟨_, rfl⟩, .inr ⟨_, rfl⟩, ⟨30, rfl, by decide, by decide⟩, .inr ⟨_, rfl⟩,
    List.forall_mem_singleton.mpr hentry, List.nodup_singleton _⟩
  obtain ⟨hall, hwindow, _⟩ := hdescribes policy hpolicy
  have hdays : ((30 : Int) : ℚ) = (policy.window : ℚ) := Option.some.inj hwindow.number
  exact ⟨policy, hpolicy, (Int.cast_inj.mp hdays).symm, hall⟩

end CrateGuard.Policy
