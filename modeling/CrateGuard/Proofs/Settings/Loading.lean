import CrateGuard.Proofs.Run
import CrateGuard.Settings.Reading

/-! Loading settings. What is loaded is what the value in the file is read as, whatever kind of
settings it is. -/

namespace CrateGuard.Settings

variable {α : Type} {ofJson : Json → Except SettingsFault α} {amount : α → String}
variable {files : FileTree} {place : ShownPath}

theorem result_load :
    (load ofJson amount files place).result =
      (readFile files place.path).result.map fun read => read >>= ofJson := by
  rw [load, Run.result_bind]
  cases (readFile files place.path).result with
  | error crash => rfl
  | ok read =>
    cases read with
    | error fault => rfl
    | ok value =>
      cases hsettings : ofJson value <;> simp [hsettings]

/-- The value in the file decides. -/
theorem result_load_of_value {value : Json}
    (h : (readFile files place.path).result = .ok (.ok value)) :
    (load ofJson amount files place).result = .ok (ofJson value) := by
  rw [result_load, h]
  rfl

/-- Settings that are loaded were read from the value in their file. -/
theorem exists_value_of_load {settings : α}
    (h : (load ofJson amount files place).result = .ok (.ok settings)) :
    ∃ value, (readFile files place.path).result = .ok (.ok value) ∧ ofJson value = .ok settings := by
  obtain ⟨read, hread, h⟩ := map_eq_ok.mp (result_load.symm.trans h)
  obtain ⟨value, rfl, hvalue⟩ := bind_eq_ok.mp h
  exact ⟨value, hread, hvalue⟩

end CrateGuard.Settings
