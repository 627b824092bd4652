import CrateGuard.Text.Newline

/-! Texts with their line ends unified. What is not a line end stays, in its place and in order. -/

namespace CrateGuard.Text

theorem unifyNewlines_cons {c : CodePoint} (h : c ≠ .char '\r') (s : Text) :
    unifyNewlines (c :: s) = c :: unifyNewlines s := by
  rw [unifyNewlines]
  · rintro rest rfl
    exact absurd rfl h
  · rintro rfl
    exact absurd rfl h

/-- A carriage return becomes a line feed, and takes with it one that follows. -/
theorem unifyNewlines_return (s : Text) :
    ∃ after, unifyNewlines (.char '\r' :: s) = .char '\n' :: unifyNewlines after ∧
      (after = s ∨ s = .char '\n' :: after) := by
  by_cases h : ∃ after, s = .char '\n' :: after
  · obtain ⟨after, rfl⟩ := h
    exact ⟨after, by rw [unifyNewlines], .inr rfl⟩
  · refine ⟨s, ?_, .inl rfl⟩
    rw [unifyNewlines]
    intro rest hrest
    exact h ⟨rest, hrest⟩

theorem unifyNewlines_eq_nil_iff {s : Text} : unifyNewlines s = [] ↔ s = [] := by
  cases s with
  | nil => exact ⟨fun _ => rfl, fun _ => rfl⟩
  | cons c rest =>
    by_cases hc : c = .char '\r'
    · obtain ⟨after, h, _⟩ := unifyNewlines_return rest
      rw [hc, h]
      simp
    · rw [unifyNewlines_cons hc]
      simp

/-- What is not a line end stood in the text before. -/
theorem eq_cons_of_unifyNewlines {s t : Text} {c : CodePoint} (hc : c ≠ .char '\n')
    (h : unifyNewlines s = c :: t) : ∃ rest, s = c :: rest ∧ unifyNewlines rest = t := by
  cases s with
  | nil => cases h
  | cons first rest =>
    by_cases hfirst : first = .char '\r'
    · obtain ⟨after, hafter, _⟩ := unifyNewlines_return rest
      rw [hfirst, hafter] at h
      cases h
      exact absurd rfl hc
    · rw [unifyNewlines_cons hfirst] at h
      cases h
      exact ⟨rest, rfl, rfl⟩

section
variable {p : CodePoint → Bool} (hreturn : p (.char '\r') = false) (hfeed : p (.char '\n') = false)
include hreturn hfeed

theorem takeWhile_unifyNewlines (s : Text) : (unifyNewlines s).takeWhile p = s.takeWhile p := by
  induction s with
  | nil => rfl
  | cons c rest ih =>
    by_cases hc : c = .char '\r'
    · obtain ⟨after, h, _⟩ := unifyNewlines_return rest
      rw [hc, h, List.takeWhile_cons, List.takeWhile_cons, hreturn, hfeed]
      rfl
    · rw [unifyNewlines_cons hc, List.takeWhile_cons, List.takeWhile_cons, ih]

theorem dropWhile_unifyNewlines (s : Text) :
    (unifyNewlines s).dropWhile p = unifyNewlines (s.dropWhile p) := by
  induction s with
  | nil => rfl
  | cons c rest ih =>
    by_cases hc : c = .char '\r'
    · obtain ⟨after, h, _⟩ := unifyNewlines_return rest
      rw [hc, h, List.dropWhile_cons, List.dropWhile_cons, hreturn, hfeed, ← h]
      rfl
    · rw [unifyNewlines_cons hc, List.dropWhile_cons, List.dropWhile_cons, ih]
      cases p c with
      | true => rfl
      | false => exact (unifyNewlines_cons hc rest).symm

end

/-- A word without line ends at the start of a text stands there still, before what followed it. -/
theorem unifyNewlines_append {word : Text} (h : ∀ c ∈ word, c ≠ .char '\r') (s : Text) :
    unifyNewlines (word ++ s) = word ++ unifyNewlines s := by
  induction word with
  | nil => rfl
  | cons c rest ih =>
    obtain ⟨hc, hrest⟩ := List.forall_mem_cons.mp h
    rw [List.cons_append, unifyNewlines_cons hc, ih hrest, List.cons_append]

theorem eq_append_of_unifyNewlines {word s t : Text} (hword : ∀ c ∈ word, c ≠ .char '\n')
    (h : unifyNewlines s = word ++ t) : ∃ rest, s = word ++ rest ∧ unifyNewlines rest = t := by
  induction word generalizing s with
  | nil => exact ⟨s, rfl, h⟩
  | cons c later ih =>
    obtain ⟨hc, hlater⟩ := List.forall_mem_cons.mp hword
    obtain ⟨rest, rfl, hrest⟩ := eq_cons_of_unifyNewlines hc h
    obtain ⟨after, rfl, hafter⟩ := ih hlater hrest
    exact ⟨after, rfl, hafter⟩

end CrateGuard.Text
