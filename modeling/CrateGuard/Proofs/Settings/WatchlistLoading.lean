import Mathlib.Data.List.Forall2
import CrateGuard.Proofs.Except
import CrateGuard.Proofs.Json.Literal
import CrateGuard.Proofs.Json.Views
import CrateGuard.Proofs.Source.Legible

/-! Which watch-list files are accepted, and what is made of them: each element of the list becomes
one watched package, in order, with repetitions kept and with a name and a group that are never
empty. -/

namespace CrateGuard.Watchlist

/-- An absent field or a truth value. -/
def IsFlag (field : Option Json) : Prop := field = none ∨ ∃ b, field = some (.bool b)

structure IsDependency (raw : Json) : Prop where
  object : ∃ fields, raw = .obj fields
  name : ∃ s, s ≠ [] ∧ raw.member "name" = .str s
  failOnUpdate : IsFlag (raw.member? "fail_on_update")

structure IsWatchlist (value : Json) : Prop where
  object : ∃ fields, value = .obj fields
  nonempty : ∃ first rest, value.member "dependencies" = .arr (first :: rest)
  entries : ∀ raw ∈ (value.member "dependencies").elements, IsDependency raw

def flagAt : Option Json → Bool
  | some (.bool b) => b
  | _ => false

def watchedAt (raw : Json) : Watched :=
  ⟨(raw.member "name").text, ((raw.member "group").orElse (.str unknownGroup)).text,
    flagAt (raw.member? "fail_on_update")⟩

private theorem failOnUpdate_eq_ok_iff {index : Nat} {field : Option Json} {b : Bool} :
    failOnUpdate index field = .ok b ↔ IsFlag field ∧ b = flagAt field := by
  cases field with
  | none => simp [failOnUpdate, IsFlag, flagAt, eq_comm]
  | some value => cases value <;> simp [failOnUpdate, IsFlag, flagAt, eq_comm]

private theorem readDependency_eq_ok_iff (index : Nat) (raw : Json) (watched : Watched) :
    readDependency index raw = .ok watched ↔ IsDependency raw ∧ watched = watchedAt raw := by
  cases raw with
  | obj fields =>
    cases hname : Json.field fields "name" with
    | str name =>
      have hmember : (Json.obj fields).member "name" = .str name := hname
      simp only [readDependency, hname]
      split_ifs with hempty
      · refine iff_of_false nofun ?_
        rintro ⟨⟨_, ⟨s, hs, hsame⟩, _⟩, _⟩
        cases hmember.symm.trans hsame
        exact hs hempty
      · rw [map_eq_ok]
        simp only [failOnUpdate_eq_ok_iff]
        constructor
        · rintro ⟨_, ⟨hflag, rfl⟩, rfl⟩
          refine ⟨⟨⟨fields, rfl⟩, ⟨name, hempty, hmember⟩, hflag⟩, ?_⟩
          rw [watchedAt, hmember]
          rfl
        · rintro ⟨hshape, rfl⟩
          refine ⟨_, ⟨hshape.failOnUpdate, rfl⟩, ?_⟩
          rw [watchedAt, hmember]
          rfl
    | _ =>
      simp only [readDependency, hname]
      refine iff_of_false nofun ?_
      rintro ⟨⟨_, ⟨s, _, hsame⟩, _⟩, _⟩
      cases hname.symm.trans hsame
  | _ =>
    refine iff_of_false nofun ?_
    rintro ⟨⟨⟨fields, hobject⟩, _, _⟩, _⟩
    cases hobject

/-- A value is read as a watch list if and only if it has the shape of one, and then element by
element. -/
theorem ofJson_eq_ok_iff {value : Json} {watched : List Watched} :
    ofJson value = .ok watched ↔
      IsWatchlist value ∧ watched = (value.member "dependencies").elements.map watchedAt := by
  cases value with
  | obj fields =>
    simp only [ofJson, Json.field_eq_member]
    split
    next first rest hlist =>
      rw [hlist, Json.elements_arr, Json.readEach_eq_ok_iff readDependency_eq_ok_iff]
      refine and_congr_left fun _ => ⟨fun hentries => ⟨⟨fields, rfl⟩, ⟨first, rest, hlist⟩, ?_⟩, fun hshape => ?_⟩
      · rwa [hlist, Json.elements_arr]
      · have hentries := hshape.entries
        rwa [hlist, Json.elements_arr] at hentries
    next hother =>
      refine iff_of_false nofun ?_
      rintro ⟨⟨_, ⟨first, rest, hlist⟩, _⟩, _⟩
      exact hother first rest hlist
  | _ =>
    refine iff_of_false nofun ?_
    rintro ⟨⟨⟨fields, hobject⟩, _, _⟩, _⟩
    cases hobject

structure Describes (raw : Json) (watched : Watched) : Prop where
  name_eq : raw.member "name" = .str watched.name
  failOnUpdate_absent : raw.member? "fail_on_update" = none → watched.failOnUpdate = false
  failOnUpdate_eq : ∀ b, raw.member? "fail_on_update" = some (.bool b) → watched.failOnUpdate = b
  group_unknown_iff : watched.group = unknownGroup ↔
    (raw.member "group").filled = false ∨ raw.member "group" = .str unknownGroup
  group_eq : watched.group ≠ unknownGroup → watched.group = (raw.member "group").text
  name_ne : watched.name ≠ []
  group_ne : watched.group ≠ []

/-- Only a text shows itself as the word for the unknown group, since no quoted form opens with its
first letter. -/
private theorem text_eq_unknownGroup_iff {value : Json} : value.text = unknownGroup ↔
    value = .str unknownGroup := by
  have hliteral (value : Json) : value.literal ≠ unknownGroup := by
    obtain ⟨first, rest, hvalue, hfirst⟩ := value.opensWith_literal
    intro h
    cases hvalue.symm.trans h
    cases hfirst
  cases value with
  | str s => simp [Json.text]
  | _ => exact iff_of_false (hliteral _) nofun

private theorem text_ne_nil {value : Json} (h : value.filled = true) : value.text ≠ [] := by
  cases value with
  | str s => simpa [Json.text] using h
  | _ => exact (Json.opensWith_literal _).ne_nil

theorem IsDependency.describes {raw : Json} (h : IsDependency raw) :
    Describes raw (watchedAt raw) := by
  obtain ⟨name, hname, hmember⟩ := h.name
  constructor
  case name_eq => rw [watchedAt, hmember, Json.text]
  case failOnUpdate_absent =>
    intro habsent
    rw [watchedAt, habsent]
    rfl
  case failOnUpdate_eq =>
    intro b hb
    rw [watchedAt, hb, flagAt]
  case name_ne => rwa [watchedAt, hmember, Json.text]
  all_goals
    simp only [watchedAt, Json.orElse]
    cases hfilled : (raw.member "group").filled with
    | false => simp [Json.text, unknownGroup, Text.ofString]
    | true => simp [text_eq_unknownGroup_iff, text_ne_nil hfilled]

inductive Refuses (value : Json) : SettingsFault → Prop
  | notObject (h : ∀ fields, value ≠ .obj fields) : Refuses value .notObject
  | dependencies (h : ∀ first rest, value.member "dependencies" ≠ .arr (first :: rest)) : Refuses value .noDependencies
  | dependency {index : Nat} {raw : Json} (hraw : (value.member "dependencies").elements[index]? = some raw)
    (h : ∀ fields, raw ≠ .obj fields) : Refuses value (.dependencyNotObject index)
  | name {index : Nat} {raw : Json} (hraw : (value.member "dependencies").elements[index]? = some raw)
    (h : ∀ s, raw.member "name" = .str s → s = []) : Refuses value (.dependencyWithoutName index)
  | failOnUpdate {index : Nat} {raw : Json} (hraw : (value.member "dependencies").elements[index]? = some raw)
    (h : ¬IsFlag (raw.member? "fail_on_update")) : Refuses value (.failOnUpdateNotBoolean index)

section
variable {value : Json} {fault : SettingsFault}

private theorem failOnUpdate_eq_error {index : Nat} {field : Option Json}
    (h : failOnUpdate index field = .error fault) :
    ¬IsFlag field ∧ fault = .failOnUpdateNotBoolean index := by
  cases field with
  | none => cases h
  | some value => cases value <;> simp_all [failOnUpdate, IsFlag, eq_comm]

private theorem readDependency_refuses {index : Nat} {raw : Json}
    (hraw : (value.member "dependencies").elements[index]? = some raw) (h : readDependency index raw = .error fault) :
    Refuses value fault := by
  cases raw with
  | obj fields =>
    cases hname : Json.field fields "name" with
    | str name =>
      simp only [readDependency, hname] at h
      split_ifs at h with hempty
      · cases h
        refine .name hraw fun s hs => ?_
        cases hname.symm.trans hs
        exact hempty
      · obtain ⟨hflag, rfl⟩ := failOnUpdate_eq_error (map_eq_error.mp h)
        exact .failOnUpdate hraw hflag
    | _ =>
      simp only [readDependency, hname] at h
      cases h
      refine .name hraw fun s hs => ?_
      cases hname.symm.trans hs
  | _ =>
    cases h
    exact .dependency hraw (by simp)

/-- A refusal is about a part of the value that is not as it should be. -/
theorem ofJson_refuses (h : ofJson value = .error fault) : Refuses value fault := by
  cases value with
  | obj fields =>
    simp only [ofJson, Json.field_eq_member] at h
    split at h
    next first rest hlist =>
      obtain ⟨index, raw, hraw, hfault⟩ := Json.exists_of_readEach_eq_error h
      rw [Nat.zero_add] at hfault
      refine readDependency_refuses ?_ hfault
      rwa [hlist, Json.elements_arr]
    next hother =>
      cases h
      exact .dependencies hother
  | _ =>
    cases h
    exact .notObject (by simp)

end

section
variable {files : FileTree} {place : ShownPath} {value : Json}
variable (hvalue : (Settings.readFile files place.path).result = .ok (.ok value))
include hvalue

/-- A watch-list file is accepted if and only if its value has the shape of a watch list, and is
refused otherwise with a fault that says what is against it. Once it is accepted, its packages are
those of the value one by one and in order, and none is without a name or a group. -/
theorem load_preserves_list :
    ((∃ watched, (load files place).result = .ok (.ok watched)) ↔ IsWatchlist value) ∧
    (¬IsWatchlist value → ∃ fault, (load files place).result = .ok (.error fault) ∧ Refuses value fault) ∧
    ∀ watched, (load files place).result = .ok (.ok watched) →
      List.Forall₂ Describes (value.member "dependencies").elements watched := by
  simp only [load, Settings.result_load_of_value hvalue, Except.ok.injEq]
  refine ⟨⟨?_, ?_⟩, ?_, ?_⟩
  · rintro ⟨watched, h⟩
    exact (ofJson_eq_ok_iff.mp h).1
  · exact fun hshape => ⟨_, ofJson_eq_ok_iff.mpr ⟨hshape, rfl⟩⟩
  · intro hshape
    cases h : ofJson value with
    | error fault => exact ⟨fault, rfl, ofJson_refuses h⟩
    | ok watched => exact absurd (ofJson_eq_ok_iff.mp h).1 hshape
  · intro watched h
    obtain ⟨hshape, rfl⟩ := ofJson_eq_ok_iff.mp h
    rw [List.forall₂_map_right_iff, List.forall₂_same]
    exact fun raw hmem => (hshape.entries raw hmem).describes

end

def repeatedList : String :=
  "\x7b\"dependencies\": [\x7b\"name\": \"serde\", \"group\": null\x7d, " ++
    "\x7b\"name\": \"serde\", \"group\": [\"core\", 1], \"fail_on_update\": true\x7d]\x7d"

def ungrouped : Json :=
  .obj [("name", .str "serde"), ("group", .null)]

def grouped : Json :=
  .obj [("name", .str "serde"), ("group", .arr [.str "core", .int 1]), ("fail_on_update", .bool true)]

def repeatedValue : Json :=
  .obj [("dependencies", .arr [ungrouped, grouped])]

def watchlistFiles (bytes : ByteArray) : FileTree :=
  ⟨[(⟨false, 0, ["watch.json".toByteArray.toList]⟩, .file bytes)]⟩

/-- Both elements of the watch list are kept. -/
theorem load_preserves_list_repeated :
    ∃ watched, (load (watchlistFiles repeatedList.toByteArray) (.asWritten "watch.json")).result = .ok (.ok watched) ∧
      List.Forall₂ Describes [ungrouped, grouped] watched := by
  have hbytes (bytes : ByteArray) : (watchlistFiles bytes).read (Path.ofText "watch.json") = .ok bytes := by cbv
  have hvalue : Json.decode Json.nestingLimit (Text.ofString repeatedList).unifyNewlines =
      .ok (.ok repeatedValue) := by cbv
  have hread : (Settings.readFile (watchlistFiles repeatedList.toByteArray)
      (ShownPath.asWritten "watch.json").path).result = .ok (.ok repeatedValue) :=
    Settings.readFile_eq_ok rfl (hbytes _) hvalue
  obtain ⟨haccepted, _, hdescribes⟩ := load_preserves_list hread
  have hungrouped : IsDependency ungrouped := ⟨⟨_, rfl⟩, ⟨"serde", by decide, rfl⟩, .inl rfl⟩
  have hgrouped : IsDependency grouped := ⟨⟨_, rfl⟩, ⟨"serde", by decide, rfl⟩, .inr ⟨true, rfl⟩⟩
  have hentries : ∀ raw ∈ [ungrouped, grouped], IsDependency raw :=
    List.forall_mem_cons.mpr ⟨hungrouped, List.forall_mem_singleton.mpr hgrouped⟩
  obtain ⟨watched, hwatched⟩ := haccepted.mpr ⟨⟨_, rfl⟩, ⟨_, _, rfl⟩, hentries⟩
  exact ⟨watched, hwatched, hdescribes watched hwatched⟩

end CrateGuard.Watchlist
