import CrateGuard.Text.Separated

/-! Joining parts and splitting them again. No part of a split holds the separator, and parts that
do not hold it are found again in what they are joined to. -/

namespace CrateGuard.Text

theorem not_mem_of_mem_split {separator : CodePoint} {s part : Text}
    (h : part ∈ split separator s) :
    separator ∉ part := by
  induction s generalizing part with
  | nil =>
    rw [split, List.mem_singleton] at h
    rw [h]
    exact List.not_mem_nil
  | cons c rest ih =>
    obtain ⟨first, later, hsplit⟩ := List.exists_cons_of_ne_nil (split_ne_nil separator rest)
    rw [split, hsplit] at h
    rw [hsplit] at ih
    by_cases hc : c = separator
    · rw [if_pos hc, List.mem_cons] at h
      rcases h with rfl | h
      · exact List.not_mem_nil
      · exact ih h
    · rw [if_neg hc, List.mem_cons] at h
      rcases h with rfl | h
      · rw [List.mem_cons, not_or]
        exact ⟨fun he => hc he.symm, ih List.mem_cons_self⟩
      · exact ih (List.mem_cons_of_mem _ h)

private theorem split_of_not_mem {separator : CodePoint} {part : Text} (h : separator ∉ part) :
    split separator part = [part] := by
  induction part with
  | nil => rfl
  | cons c rest ih =>
    rw [List.mem_cons, not_or] at h
    rw [split, if_neg (Ne.symm h.1), ih h.2]

theorem split_append {separator : CodePoint} {part : Text} (h : separator ∉ part) (rest : Text) :
    split separator (part ++ separator :: rest) = part :: split separator rest := by
  induction part with
  | nil => rw [List.nil_append, split, if_pos rfl]
  | cons c later ih =>
    rw [List.mem_cons, not_or] at h
    rw [List.cons_append, split, if_neg (Ne.symm h.1), ih h.2]

/-- Splitting undoes joining, as long as there is a part and none holds the separator. -/
theorem split_join {separator : CodePoint} {parts : List Text} (hne : parts ≠ [])
    (h : ∀ part ∈ parts, separator ∉ part) : split separator (join separator parts) = parts := by
  induction parts using join.induct with
  | case1 => contradiction
  | case2 part => exact split_of_not_mem (h part List.mem_cons_self)
  | case3 part parts hparts ih =>
    rw [join, split_append (h part List.mem_cons_self),
      ih hparts fun other hother => h other (List.mem_cons_of_mem _ hother)]
    exact hparts

theorem join_ne_nil {separator : CodePoint} {part : Text} (h : part ≠ []) (parts : List Text) :
    join separator (part :: parts) ≠ [] := by
  cases parts with
  | nil => exact h
  | cons next later => simp [join]

theorem infix_join_of_mem {separator : CodePoint} {part : Text} {parts : List Text}
    (h : part ∈ parts) :
    part <:+: join separator parts := by
  induction parts using join.induct with
  | case1 => cases h
  | case2 only => rw [List.mem_singleton.mp h]; exact List.infix_refl _
  | case3 first parts hparts ih =>
    rw [join]
    · rcases List.mem_cons.mp h with rfl | hlater
      · exact (List.prefix_append _ _).isInfix
      · have htail : join separator parts <:+ first ++ separator :: join separator parts :=
          ⟨first ++ [separator], by simp⟩
        exact (ih hlater).trans htail.isInfix
    · exact hparts

theorem infix_of_mem_split {separator : CodePoint} {s part : Text} (h : part ∈ split separator s) :
    part <:+: s := by
  rw [← join_split separator s]
  exact infix_join_of_mem h

/-- What stands after the last separator is known, and so is what stands before it. -/
theorem append_separator_inj {separator : CodePoint} {a b s t : Text} (hs : separator ∉ s)
    (ht : separator ∉ t)
    (h : a ++ separator :: s = b ++ separator :: t) : a = b ∧ s = t := by
  rcases List.append_eq_append_iff.mp h with ⟨between, rfl, hrest⟩ | ⟨between, rfl, hrest⟩
  · cases between with
    | nil =>
      cases hrest
      exact ⟨(List.append_nil a).symm, rfl⟩
    | cons c later =>
      cases hrest
      exact absurd (List.mem_append_right later List.mem_cons_self) hs
  · cases between with
    | nil =>
      cases hrest
      exact ⟨List.append_nil b, rfl⟩
    | cons c later =>
      cases hrest
      exact absurd (List.mem_append_right later List.mem_cons_self) ht

end CrateGuard.Text
