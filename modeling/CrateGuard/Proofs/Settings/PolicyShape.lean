import Mathlib.Data.List.Nodup
import CrateGuard.Proofs.Decimal.ExactValue
import CrateGuard.Proofs.Except
import CrateGuard.Proofs.Json.Views
import CrateGuard.Settings.Policy

/-! The shape of a policy. Its metadata are null or an object, and set a whole number of days in
range if they set a window; its exceptions are null or a list of objects, with texts for ids, none
empty and none twice, and with days that can be read where they set any. -/

namespace CrateGuard

/-- The value of a number. Truth values are no numbers. -/
def Json.number? : Json → Option ℚ
  | .int n => some n
  | .float x => x.value?
  | _ => none

namespace Policy

/-- A value that sets a window of the given number of days. -/
structure SetsWindow (value : Json) (days : Int) : Prop where
  number : value.number? = some (days : ℚ)
  pos : 1 ≤ days
  le : days ≤ 36500

/-- The window that metadata set, or the usual one if they have no field for it. -/
def HasWindow (metadata : Json) (days : Int) : Prop :=
  match metadata.member? "max_review_window_days" with
  | none => days = 45
  | some value => SetsWindow value days

structure IsEntry (raw : Json) : Prop where
  object : ∃ fields, raw = .obj fields
  id : ∃ s, s ≠ [] ∧ raw.member "id" = .str s
  reviewBy : (raw.member "review_by").filled = false ∨
    ∃ s date, raw.member "review_by" = .str s ∧ Date.read? s = some date

structure IsPolicy (value : Json) : Prop where
  object : ∃ fields, value = .obj fields
  metadata : (value.member "metadata").IsSection
  window : ∃ days, HasWindow (value.member "metadata") days
  allow : (value.member "allow").IsListing
  entries : ∀ raw ∈ (value.member "allow").elements, IsEntry raw
  distinct : ((value.member "allow").elements.map fun raw => raw.member "id").Nodup

def dateAt : Json → Option Date
  | .str s => Date.read? s
  | _ => none

def entryAt (raw : Json) : AllowEntry :=
  ⟨raw.member "id", dateAt (raw.member "review_by")⟩

private theorem setsWindow_iff {value : Json} {days : Int} :
    SetsWindow value days ↔ value.number? = some (days : ℚ) ∧ 1 ≤ days ∧ days ≤ 36500 :=
  ⟨fun h => ⟨h.number, h.pos, h.le⟩, fun ⟨hnumber, hpos, hle⟩ => ⟨hnumber, hpos, hle⟩⟩

private theorem inWindowRange_eq_some_iff {n days : Int} :
    inWindowRange n = some days ↔ n = days ∧ 1 ≤ days ∧ days ≤ 36500 := by
  unfold inWindowRange maxReviewWindow
  split
  next h =>
    simp only [Bool.and_eq_true, decide_eq_true_eq] at h
    rw [Option.some.injEq]
    exact ⟨fun he => ⟨he, he ▸ h⟩, fun he => he.1⟩
  next h =>
    simp only [Bool.and_eq_true, decide_eq_true_eq] at h
    refine iff_of_false nofun ?_
    rintro ⟨rfl, hrange⟩
    exact h hrange

private theorem readWindow_eq_some_iff {value : Json} {days : Int} :
    readWindow value = some days ↔ SetsWindow value days := by
  rw [setsWindow_iff]
  cases value with
  | int n => rw [readWindow, inWindowRange_eq_some_iff, Json.number?, Option.some.injEq, Int.cast_inj]
  | float x =>
    rw [readWindow, Option.bind_eq_some_iff, Json.number?, ← Binary64.integer?_eq_some_iff]
    simp only [inWindowRange_eq_some_iff]
    constructor
    · rintro ⟨n, hn, rfl, hrange⟩
      exact ⟨hn, hrange⟩
    · rintro ⟨hdays, hrange⟩
      exact ⟨days, hdays, rfl, hrange⟩
  | _ => simp [readWindow, Json.number?]

/-- Thirty may be written with a fraction. -/
example : readWindow (.float (Binary64.ofDecimal false 300 (-1))) = some 30 := by rfl

theorem windowOf_eq_ok_iff {metadata : Json} {days : Int} :
    windowOf metadata.entries = .ok days ↔ HasWindow metadata days := by
  rw [windowOf, HasWindow, Json.field?_entries]
  cases metadata.member? "max_review_window_days" with
  | none => simp [defaultWindow, eq_comm]
  | some value =>
    simp only [← readWindow_eq_some_iff]
    cases readWindow value <;> simp

theorem HasWindow.range {metadata : Json} {days : Int} (h : HasWindow metadata days) :
    1 ≤ days ∧ days ≤ 36500 := by
  unfold HasWindow at h
  split at h
  · omega
  · exact ⟨h.pos, h.le⟩

theorem metadataOf_eq_ok_iff {raw : Json} {fields : Json.Fields} :
    metadataOf raw = .ok fields ↔ raw.IsSection ∧ fields = raw.entries := by
  cases raw <;> simp [metadataOf, Json.IsSection, Json.entries, eq_comm]

theorem rawEntries_eq_ok_iff {raw : Json} {values : List Json} :
    rawEntries raw = .ok values ↔ raw.IsListing ∧ values = raw.elements := by
  cases raw <;> simp [rawEntries, Json.IsListing, Json.elements, eq_comm]

theorem dateAt_of_not_filled {value : Json} (h : value.filled = false) : dateAt value = none := by
  cases value with
  | str s =>
    cases s with
    | nil => rfl
    | cons c rest => cases h
  | _ => rfl

private theorem reviewDate_eq_ok_iff {index : Nat} {value : Json} {date : Option Date} :
    reviewDate index value = .ok date ↔
      (value.filled = false ∨ ∃ s found, value = .str s ∧ Date.read? s = some found) ∧ date = dateAt value := by
  unfold reviewDate
  cases hfilled : value.filled with
  | false => simp [dateAt_of_not_filled hfilled, eq_comm]
  | true =>
    cases value with
    | str s => cases hread : Date.read? s <;> simp [dateAt, hread, eq_comm]
    | _ => simp

theorem readEntry_eq_ok_iff {index : Nat} {seen : List Json} {raw : Json} {entry : AllowEntry} :
    readEntry index seen raw = .ok entry ↔ IsEntry raw ∧ raw.member "id" ∉ seen ∧ entry = entryAt raw := by
  cases raw with
  | obj fields =>
    cases hid : Json.field fields "id" with
    | str id =>
      have hmember : (Json.obj fields).member "id" = .str id := hid
      have hseen : seen.any (Json.str id).same = true ↔ .str id ∈ seen := by simp
      simp only [readEntry, hid, hmember]
      split_ifs with hempty hrepeated
      · refine iff_of_false nofun ?_
        rintro ⟨⟨_, ⟨s, hs, hsame⟩, _⟩, _⟩
        cases hmember.symm.trans hsame
        exact hs hempty
      · exact iff_of_false nofun fun h => h.2.1 (hseen.mp hrepeated)
      · rw [map_eq_ok]
        simp only [reviewDate_eq_ok_iff]
        constructor
        · rintro ⟨_, ⟨hdate, rfl⟩, rfl⟩
          refine ⟨⟨⟨fields, rfl⟩, ⟨id, hempty, hmember⟩, hdate⟩, fun hmem => hrepeated (hseen.mpr hmem), ?_⟩
          rw [entryAt, hmember]
          rfl
        · rintro ⟨hentry, _, rfl⟩
          refine ⟨_, ⟨hentry.reviewBy, rfl⟩, ?_⟩
          rw [entryAt, hmember]
          rfl
    | _ =>
      simp only [readEntry, hid]
      refine iff_of_false nofun ?_
      rintro ⟨⟨_, ⟨s, _, hsame⟩, _⟩, _⟩
      cases hid.symm.trans hsame
  | _ =>
    refine iff_of_false nofun ?_
    rintro ⟨⟨⟨fields, hobject⟩, _, _⟩, _⟩
    cases hobject

private theorem readEntries_eq_ok_iff {index : Nat} {seen raw : List Json}
    {entries : List AllowEntry} :
    readEntries index seen raw = .ok entries ↔
      (∀ element ∈ raw, IsEntry element ∧ element.member "id" ∉ seen) ∧
        (raw.map fun element => element.member "id").Nodup ∧ entries = raw.map entryAt := by
  induction raw generalizing index seen entries with
  | nil => simp [readEntries, eq_comm]
  | cons first rest ih =>
    simp only [readEntries, bind_eq_ok, readEntry_eq_ok_iff, ih, List.forall_mem_cons, List.map_cons, List.nodup_cons]
    constructor
    · rintro ⟨_, ⟨hfirst, hfresh, rfl⟩, _, ⟨hrest, hdistinct, rfl⟩, hmade⟩
      cases hmade
      refine ⟨⟨⟨hfirst, hfresh⟩, ?_⟩, ⟨?_, hdistinct⟩, rfl⟩
      · intro element hmem
        exact ⟨(hrest element hmem).1, fun hseen => (hrest element hmem).2 (List.mem_cons_of_mem _ hseen)⟩
      · intro hmem
        obtain ⟨element, helement, hid⟩ := List.mem_map.mp hmem
        exact (hrest element helement).2 (hid ▸ List.mem_cons_self)
    · rintro ⟨⟨⟨hfirst, hfresh⟩, hrest⟩, ⟨hnew, hdistinct⟩, rfl⟩
      refine ⟨_, ⟨hfirst, hfresh, rfl⟩, _, ⟨?_, hdistinct, rfl⟩, rfl⟩
      intro element hmem
      refine ⟨(hrest element hmem).1, fun hseen => ?_⟩
      rcases List.mem_cons.mp hseen with hsame | hseen
      · exact hnew (List.mem_map.mpr ⟨element, hmem, hsame⟩)
      · exact (hrest element hmem).2 hseen

/-- A value is read as a policy if and only if it has the shape of one, and then it describes it. -/
theorem ofJson_eq_ok_iff {value : Json} {policy : Policy} :
    ofJson value = .ok policy ↔ IsPolicy value ∧ HasWindow (value.member "metadata") policy.window ∧
      policy.allow = (value.member "allow").elements.map entryAt := by
  cases value with
  | obj fields =>
    simp only [ofJson, bind_eq_ok, metadataOf_eq_ok_iff, rawEntries_eq_ok_iff, readEntries_eq_ok_iff,
      Json.field_eq_member]
    constructor
    · rintro ⟨_, ⟨hmetadata, rfl⟩, days, hdays, _, ⟨hallow, rfl⟩, _, ⟨hentries, hdistinct, rfl⟩, hmade⟩
      rw [windowOf_eq_ok_iff] at hdays
      cases hmade
      exact ⟨⟨⟨fields, rfl⟩, hmetadata, ⟨days, hdays⟩, hallow, fun raw hmem => (hentries raw hmem).1, hdistinct⟩,
        hdays, rfl⟩
    · rintro ⟨hshape, hdays, hmade⟩
      refine ⟨_, ⟨hshape.metadata, rfl⟩, policy.window, windowOf_eq_ok_iff.mpr hdays, _, ⟨hshape.allow, rfl⟩, _,
        ⟨fun raw hmem => ⟨hshape.entries raw hmem, List.not_mem_nil⟩, hshape.distinct, rfl⟩, ?_⟩
      rw [← hmade]
      rfl
  | _ =>
    refine iff_of_false nofun ?_
    rintro ⟨⟨⟨fields, hobject⟩, _⟩, _⟩
    cases hobject

end Policy

end CrateGuard
