import CrateGuard.Files.Tree
import CrateGuard.Proofs.Except

/-! What changes of files leave as it was. Where a path leads does not depend on the files, as long
as it leads anywhere: so a change at a path shows at one place, and directories that are made show
at the places on their way. Nothing that stands somewhere gives way to a directory. -/

namespace CrateGuard

def Path.place (path : Path) : Place :=
  path.names.foldl Place.step path.start

namespace FileTree
variable {tree after : FileTree} {path : Path} {place other start : Place} {entry : Entry}

def bytesAt (tree : FileTree) (place : Place) : ByteArray :=
  match tree.entryAt place with
  | some (.file bytes) => bytes
  | _ => ByteArray.empty

private theorem walk_eq_ok {names : List FileName} (h : tree.walk start names = .ok place) :
    place = names.foldl Place.step start := by
  induction names generalizing start with
  | nil => exact (Except.ok.inj h).symm
  | cons name rest ih =>
    rw [walk] at h
    cases hentry : tree.entryAt start with
    | none =>
      rw [hentry] at h
      cases h
    | some entry =>
      cases entry with
      | file bytes =>
        rw [hentry] at h
        cases h
      | directory =>
        rw [hentry] at h
        dsimp only at h
        split at h
        · cases h
        · exact ih h

private theorem locate_eq_ok (h : tree.locate path = .ok place) : place = path.place := by
  unfold locate at h
  split at h
  · cases h
  · exact walk_eq_ok h

private theorem names_ne_nil_of_entryAt (h : tree.entryAt place ≠ some .directory) :
    place.names ≠ [] := by
  intro hnames
  apply h
  rw [entryAt, hnames]
  rfl

private theorem find?_putEntry (entries : List (Place × Entry)) :
    (putEntry place entry entries).find? (fun known => known.1 == other) =
      if other = place then some (place, entry) else entries.find? fun known => known.1 == other := by
  induction entries with
  | nil =>
    by_cases h : other = place
    · simp [putEntry, h]
    · simp [putEntry, h, Ne.symm h]
  | cons known rest ih =>
    by_cases hknown : known.1 = place
    · by_cases h : other = place
      · simp [putEntry, hknown, h]
      · simp [putEntry, hknown, h, Ne.symm h]
    · by_cases hother : known.1 = other
      · have h : other ≠ place := hother ▸ hknown
        simp [putEntry, hother, h]
      · simp [putEntry, hknown, hother, ih]

private theorem entryAt_put_self (h : place.names ≠ []) :
    (tree.put place entry).entryAt place = some entry := by
  have hempty : place.names.isEmpty = false := by simpa using h
  simp [entryAt, put, find?_putEntry, hempty]

private theorem entryAt_put_of_ne (h : other ≠ place) :
    (tree.put place entry).entryAt other = tree.entryAt other := by
  rw [entryAt, entryAt, put, find?_putEntry, if_neg h]

private theorem put_put (entry' : Entry) :
    (tree.put place entry).put place entry' = tree.put place entry' := by
  have hentries (entries : List (Place × Entry)) :
      putEntry place entry' (putEntry place entry entries) = putEntry place entry' entries := by
    induction entries with
    | nil => simp [putEntry]
    | cons known rest ih =>
      by_cases h : known.1 = place
      · simp [putEntry, h]
      · simp [putEntry, h, ih]
  rw [put, put, put, hentries]

/-- A walk passes directories only, so it is not led elsewhere by what is put where there is
none. -/
private theorem walk_put {names : List FileName} (hplace : tree.entryAt place ≠ some .directory)
    (h : tree.walk start names = .ok other) : (tree.put place entry).walk start names = .ok other := by
  induction names generalizing start with
  | nil => exact h
  | cons name rest ih =>
    rw [walk] at h ⊢
    cases hentry : tree.entryAt start with
    | none =>
      rw [hentry] at h
      cases h
    | some passed =>
      cases passed with
      | file bytes =>
        rw [hentry] at h
        cases h
      | directory =>
        -- the walk goes on from a directory, and at the place there is none
        have hne : start ≠ place := by
          rintro rfl
          exact hplace hentry
        rw [entryAt_put_of_ne hne]
        rw [hentry] at h ⊢
        dsimp only at h ⊢
        split at h
        · cases h
        · rename_i hlength
          rw [if_neg hlength]
          exact ih h

private theorem locate_put (hplace : tree.entryAt place ≠ some .directory)
    (h : tree.locate path = .ok other) :
    (tree.put place entry).locate path = .ok other := by
  unfold locate at h ⊢
  split at h
  · cases h
  · rename_i hsize
    rw [if_neg hsize]
    exact walk_put hplace h

/-- A change succeeds if and only if the place of the path is reached and is no directory; it shows
there. -/
private theorem modify_eq_ok {change : ByteArray → ByteArray} :
    tree.modify path change = .ok after ↔
      tree.locate path = .ok path.place ∧ tree.entryAt path.place ≠ some .directory ∧
        after = tree.put path.place (.file (change (tree.bytesAt path.place))) := by
  rw [modify, bind_eq_ok]
  constructor
  · rintro ⟨place, hlocate, h⟩
    obtain rfl := locate_eq_ok hlocate
    refine ⟨hlocate, ?_⟩
    cases hentry : tree.entryAt path.place with
    | none =>
      rw [hentry] at h
      cases h
      rw [bytesAt, hentry]
      exact ⟨nofun, rfl⟩
    | some entry =>
      rw [hentry] at h
      cases entry with
      | directory => cases h
      | file bytes =>
        cases h
        rw [bytesAt, hentry]
        exact ⟨nofun, rfl⟩
  · rintro ⟨hlocate, hdirectory, rfl⟩
    refine ⟨path.place, hlocate, ?_⟩
    cases hentry : tree.entryAt path.place with
    | none =>
      rw [bytesAt, hentry]
      rfl
    | some entry =>
      cases entry with
      | directory => exact absurd hentry hdirectory
      | file bytes =>
        rw [bytesAt, hentry]
        rfl

theorem entryAt_modify_self {change : ByteArray → ByteArray}
    (h : tree.modify path change = .ok after) :
    after.entryAt path.place = some (.file (change (tree.bytesAt path.place))) := by
  obtain ⟨_, hdirectory, rfl⟩ := modify_eq_ok.mp h
  exact entryAt_put_self (names_ne_nil_of_entryAt hdirectory)

theorem entryAt_modify_of_ne {change : ByteArray → ByteArray}
    (h : tree.modify path change = .ok after)
    (hother : other ≠ path.place) : after.entryAt other = tree.entryAt other := by
  obtain ⟨_, _, rfl⟩ := modify_eq_ok.mp h
  exact entryAt_put_of_ne hother

private theorem modify_modify {first : ByteArray → ByteArray} (second : ByteArray → ByteArray)
    (h : tree.modify path first = .ok after) :
    after.modify path second = tree.modify path fun bytes => second (first bytes) := by
  obtain ⟨hlocate, hdirectory, hafter⟩ := modify_eq_ok.mp h
  have hself := entryAt_modify_self h
  have hbytes : after.bytesAt path.place = first (tree.bytesAt path.place) := by rw [bytesAt, hself]
  have hreached : after.locate path = .ok path.place := hafter ▸ locate_put hdirectory hlocate
  have hfile : after.entryAt path.place ≠ some .directory := by
    rw [hself]
    nofun
  have hboth : tree.modify path (fun bytes => second (first bytes)) =
      .ok (tree.put path.place (.file (second (first (tree.bytesAt path.place))))) :=
    modify_eq_ok.mpr ⟨hlocate, hdirectory, rfl⟩
  rw [hboth, modify_eq_ok]
  refine ⟨hreached, hfile, ?_⟩
  rw [hbytes, hafter, put_put]

/-- A file that can be opened can be appended to. -/
theorem append_of_open {opened : FileTree} (h : tree.append path ByteArray.empty = .ok opened)
    (bytes : ByteArray) :
    opened.append path bytes = tree.append path bytes := by
  rw [append, modify_modify (· ++ bytes) h, append]
  congr 1
  funext old
  rw [ByteArray.append_empty]

theorem exists_append_of_open {opened : FileTree}
    (h : tree.append path ByteArray.empty = .ok opened)
    (bytes : ByteArray) : ∃ written, tree.append path bytes = .ok written := by
  obtain ⟨hlocate, hdirectory, _⟩ := modify_eq_ok.mp h
  exact ⟨_, modify_eq_ok.mpr ⟨hlocate, hdirectory, rfl⟩⟩

theorem bytesAt_append_self {bytes : ByteArray} (h : tree.append path bytes = .ok after) :
    after.bytesAt path.place = tree.bytesAt path.place ++ bytes := by
  rw [bytesAt, entryAt_modify_self h]

section Directories

private theorem entryAt_makeAlong_of_some {names : List FileName}
    (h : tree.entryAt place = some entry) :
    (tree.makeAlong start names).1.entryAt place = some entry := by
  induction names generalizing tree start with
  | nil => exact h
  | cons name rest ih =>
    rw [makeAlong]
    split
    · exact h
    · split
      · rename_i hmissing
        apply ih
        rw [entryAt_put_of_ne, h]
        rintro rfl
        rw [h] at hmissing
        cases hmissing
      · exact ih h
      · exact h

theorem entryAt_ensureDirectories_of_some (h : tree.entryAt place = some entry) :
    (tree.ensureDirectories path).1.entryAt place = some entry := by
  rw [ensureDirectories]
  split
  · exact h
  · rename_i first missing _
    have hmade : (tree.makeAlong first missing).1.entryAt place = some entry := entryAt_makeAlong_of_some h
    split <;> simp_all

private theorem entryAt_makeAlong_of_ne (tree : FileTree) {names : List FileName}
    (h : ∀ count, (names.take count).foldl Place.step start ≠ place) :
    (tree.makeAlong start names).1.entryAt place = tree.entryAt place := by
  induction names generalizing tree start with
  | nil => rfl
  | cons name rest ih =>
    have hlater : ∀ count, (rest.take count).foldl Place.step (start.step name) ≠ place := fun count => h (count + 1)
    have hstep : place ≠ start.step name := fun heq => h 1 (by simp [heq])
    rw [makeAlong]
    split
    · rfl
    · split
      · rw [ih _ hlater, entryAt_put_of_ne hstep]
      · exact ih _ hlater
      · rfl

private theorem missingFrom_eq_ok {names missing : List FileName}
    (h : tree.missingFrom start names = .ok (place, missing)) :
    ∃ count, place = (names.take count).foldl Place.step start ∧ missing = names.drop count := by
  induction names generalizing start with
  | nil =>
    cases h
    exact ⟨0, rfl, rfl⟩
  | cons name rest ih =>
    rw [missingFrom] at h
    split at h
    · cases h
    · split at h
      · cases h
        exact ⟨0, rfl, rfl⟩
      · obtain ⟨count, hplace, hmissing⟩ := ih h
        exact ⟨count + 1, hplace, hmissing⟩
      · cases h

private theorem names_above (path : Path) (levels : Nat) :
    (path.above levels).names = path.names.take (path.names.length - levels) := by
  simp [Path.names, Path.above, List.map_take]

private theorem exists_above_place (path : Path) (count : Nat) :
    ∃ levels, (path.above levels).place = (path.names.take count).foldl Place.step path.start := by
  refine ⟨path.names.length - count, ?_⟩
  have hstart : (path.above (path.names.length - count)).start = path.start := rfl
  rw [Path.place, names_above, hstart]
  congr 1
  rw [List.take_eq_take_iff]
  omega

theorem entryAt_ensureDirectories_of_ne (h : ∀ levels, (path.above levels).place ≠ place) :
    (tree.ensureDirectories path).1.entryAt place = tree.entryAt place := by
  rw [ensureDirectories]
  split
  · rfl
  · rename_i first missing hmissing
    unfold missingPart at hmissing
    split at hmissing
    · cases hmissing
    obtain ⟨passed, rfl, rfl⟩ := missingFrom_eq_ok hmissing
    -- directories are made at the places of the path cut short
    have hway : ∀ count, ((path.names.drop passed).take count).foldl Place.step
        ((path.names.take passed).foldl Place.step path.start) ≠ place := by
      intro count
      rw [← List.foldl_append, ← List.take_add]
      obtain ⟨levels, hlevels⟩ := exists_above_place path (passed + count)
      exact hlevels ▸ h levels
    have hmade := entryAt_makeAlong_of_ne tree hway
    split <;> simp_all

/-- A file that is put where no directory stands blocks the way or leaves it as it was. -/
private theorem missingFrom_of_put {names missing : List FileName} {bytes : ByteArray}
    {reached : Place}
    (hplace : tree.entryAt place ≠ some .directory)
    (h : (tree.put place (.file bytes)).missingFrom start names = .ok (reached, missing)) :
    tree.missingFrom start names = .ok (reached, missing) := by
  induction names generalizing start with
  | nil => exact h
  | cons name rest ih =>
    rw [missingFrom] at h ⊢
    split at h
    · cases h
    · rename_i hlength
      rw [if_neg hlength]
      -- the way led through, so it did not meet the file
      by_cases hstep : start.step name = place
      · rw [hstep, entryAt_put_self (names_ne_nil_of_entryAt hplace)] at h
        cases h
      · rw [entryAt_put_of_ne hstep] at h
        cases hentry : tree.entryAt (start.step name) with
        | none =>
          rw [hentry] at h
          exact h
        | some entry =>
          rw [hentry] at h
          cases entry with
          | directory => exact ih h
          | file other => cases h

theorem isTooDeep_modify {change : ByteArray → ByteArray} {other : Path}
    (h : tree.modify path change = .ok after)
    (hdeep : tree.isTooDeep other = false) : after.isTooDeep other = false := by
  obtain ⟨_, hdirectory, rfl⟩ := modify_eq_ok.mp h
  unfold isTooDeep missingPart at hdeep ⊢
  split at hdeep
  · rename_i reached missing hmissing
    split at hmissing
    · cases hmissing
    · rename_i hsize
      rw [if_neg hsize]
      split
      · rename_i found left hfound
        cases hmissing.symm.trans (missingFrom_of_put hdirectory hfound)
        exact hdeep
      · rfl
  · rename_i fault hmissing
    split
    · rename_i found left hfound
      split at hfound
      · cases hfound
      · rename_i hsize
        rw [if_neg hsize] at hmissing
        cases hmissing.symm.trans (missingFrom_of_put hdirectory hfound)
    · rfl

end Directories

end FileTree

end CrateGuard
