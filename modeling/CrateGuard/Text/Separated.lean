import CrateGuard.Text.Basic

/-! Rows of parts with a separator between them. Splitting at the separator undoes joining, as long
as there is a part and no part holds the separator. -/

namespace CrateGuard.Text

/-- The parts between the separators: one more than there are separators. -/
def split (separator : CodePoint) : Text → List Text
  | [] => [[]]
  | c :: rest =>
    if c = separator then [] :: split separator rest
    else match split separator rest with
      | [] => [[c]]
      | part :: parts => (c :: part) :: parts

def join (separator : CodePoint) : List Text → Text
  | [] => []
  | [part] => part
  | part :: parts => part ++ separator :: join separator parts

theorem split_ne_nil (separator : CodePoint) (s : Text) : split separator s ≠ [] := by
  cases s with
  | nil => simp [split]
  | cons c rest =>
    rw [split]
    split
    · simp
    · split <;> simp

/-- Joining the parts of a text gives the text back. -/
theorem join_split (separator : CodePoint) (s : Text) :
    join separator (split separator s) = s := by
  induction s with
  | nil => rfl
  | cons c rest ih =>
    rw [split]
    obtain ⟨part, parts, h⟩ := List.exists_cons_of_ne_nil (split_ne_nil separator rest)
    rw [h] at ih ⊢
    by_cases hc : c = separator
    · simp only [hc, if_true]
      rw [join, List.nil_append, ih]
      simp
    · simp only [hc, if_false]
      cases parts with
      | nil => simpa [join] using ih
      | cons next others => simpa [join] using ih

end CrateGuard.Text
