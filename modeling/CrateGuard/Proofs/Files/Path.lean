import CrateGuard.Files.Path
import CrateGuard.Proofs.Text.Separation

/-! Paths in normal form are those that texts write: the text of such a path writes it again. -/

namespace CrateGuard.Path

structure IsNormal (p : Path) : Prop where
  root_mem : p.root ∈ ["", "/", "//"]
  parts : ∀ part ∈ p.parts, part ≠ [] ∧ part ≠ "." ∧ CodePoint.char '/' ∉ part

theorem isNormal_ofText (s : Text) : (ofText s).IsNormal := by
  constructor
  · change rootOf s ∈ _
    unfold rootOf
    split <;> simp
  · intro part hmem
    obtain ⟨hpart, hkept⟩ := List.mem_filter.mp hmem
    rw [Bool.and_eq_true, bne_iff_ne, Bool.not_eq_true', List.isEmpty_eq_false_iff] at hkept
    exact ⟨hkept.1, hkept.2, Text.not_mem_of_mem_split hpart⟩

theorem IsNormal.below {p : Path} (h : p.IsNormal) {names : List Text}
    (hnames : ∀ part ∈ names, part ≠ [] ∧ part ≠ "." ∧ CodePoint.char '/' ∉ part) : (p.below names).IsNormal := by
  refine ⟨h.root_mem, ?_⟩
  intro part hmem
  rcases List.mem_append.mp hmem with hmem | hmem
  · exact h.parts part hmem
  · exact hnames part hmem

private theorem IsNormal.filter_parts {p : Path} (h : p.IsNormal) :
    p.parts.filter (fun part : Text => !part.isEmpty && part != Text.ofString ".") = p.parts := by
  rw [List.filter_eq_self]
  intro part hmem
  obtain ⟨hne, hpoint, _⟩ := h.parts part hmem
  rw [Bool.and_eq_true, bne_iff_ne, Bool.not_eq_true', List.isEmpty_eq_false_iff]
  exact ⟨hne, hpoint⟩

private theorem rootOf_append {root : String} (hroot : root ∈ ["", "/", "//"]) {c : CodePoint}
    (hc : c ≠ .char '/')
    (rest : Text) : rootOf (root ++ c :: rest : Text) = root := by
  simp only [List.mem_cons, List.not_mem_nil, or_false] at hroot
  rcases hroot with rfl | rfl | rfl
  · change rootOf (c :: rest) = ""
    simp [rootOf, hc]
  · change rootOf (.char '/' :: c :: rest) = "/"
    simp [rootOf, hc]
  · change rootOf (.char '/' :: .char '/' :: c :: rest) = "//"
    simp [rootOf, hc]

private theorem filter_split_append {root : String} (hroot : root ∈ ["", "/", "//"]) (s : Text) :
    (Text.split '/' (root ++ s : Text)).filter (fun part : Text => !part.isEmpty && part != Text.ofString ".") =
      (Text.split '/' s).filter fun part : Text => !part.isEmpty && part != Text.ofString "." := by
  simp only [List.mem_cons, List.not_mem_nil, or_false] at hroot
  rcases hroot with rfl | rfl | rfl <;> rfl

/-- A path in normal form can be read off its text. -/
theorem IsNormal.ofText_text {p : Path} (h : p.IsNormal) : ofText p.text = p := by
  obtain ⟨root, parts⟩ := p
  cases hparts : parts with
  | nil =>
    have hroot := h.root_mem
    simp only [List.mem_cons, List.not_mem_nil, or_false] at hroot
    rcases hroot with rfl | rfl | rfl <;> rfl
  | cons part later =>
    subst hparts
    obtain ⟨hne, _, hslash⟩ := h.parts part List.mem_cons_self
    obtain ⟨c, point, rfl⟩ := List.exists_cons_of_ne_nil hne
    have hc : c ≠ .char '/' := fun heq => hslash (heq ▸ List.mem_cons_self)
    obtain ⟨rest, hjoin⟩ : ∃ rest, Text.join '/' ((c :: point) :: later) = c :: rest := by
      cases later with
      | nil => exact ⟨point, rfl⟩
      | cons next others => exact ⟨_, rfl⟩
    have hsplit : Text.split '/' (Text.join '/' ((c :: point) :: later)) = (c :: point) :: later :=
      Text.split_join (List.cons_ne_nil _ _) fun part hmem => (h.parts part hmem).2.2
    have htext : text ⟨root, (c :: point) :: later⟩ = root ++ Text.join '/' ((c :: point) :: later) := by
      simp [text]
    rw [htext, ofText, filter_split_append h.root_mem, hsplit, h.filter_parts, hjoin, rootOf_append h.root_mem hc]

end CrateGuard.Path
