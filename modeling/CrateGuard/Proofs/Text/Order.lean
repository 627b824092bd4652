import CrateGuard.Text.Basic

/-! The order of code points is linear, and with it the order of texts, so that a sorted row of
texts is the same however the texts stood before. -/

namespace CrateGuard

theorem compare_add_left (k m n : Nat) : compare (k + m) (k + n) = compare m n := by
  rw [Nat.compare_eq_ite_lt, Nat.compare_eq_ite_lt]
  simp only [Nat.add_lt_add_iff_left]

namespace CodePoint

private theorem char_code_ne_half_code (c : Char) (offset : Fin 0x800) :
    (char c).code ≠ (half offset).code := by
  have hvalid : c.toNat < 0xD800 ∨ 0xDFFF < c.toNat ∧ c.toNat < 0x110000 := c.valid
  have hoffset := offset.isLt
  simp only [code]
  omega

theorem code_inj {a b : CodePoint} : a.code = b.code ↔ a = b := by
  constructor
  · intro h
    match a, b with
    | char c, char d => rw [Char.toNat_inj.mp h]
    | char c, half offset => exact absurd h (char_code_ne_half_code c offset)
    | half offset, char c => exact absurd h.symm (char_code_ne_half_code c offset)
    | half offset, half other => rw [Fin.ext (Nat.add_left_cancel h)]
  · exact congrArg code

instance : Std.TransOrd CodePoint where
  eq_swap {a b} := Std.OrientedOrd.eq_swap (a := a.code) (b := b.code)
  isLE_trans {a b c} := Std.TransOrd.isLE_trans (a := a.code) (b := b.code) (c := c.code)

instance : Std.LawfulEqOrd CodePoint where
  eq_of_compare h := code_inj.mp (Std.LawfulEqOrd.eq_of_compare h)

end CodePoint

namespace Text

private theorem isAtMost_trans {a b c : Text} (hab : a.isAtMost b = true)
    (hbc : b.isAtMost c = true) :
    a.isAtMost c = true :=
  Std.TransOrd.isLE_trans hab hbc

theorem isAtMost_refl (a : Text) : a.isAtMost a = true :=
  Std.ReflOrd.isLE_rfl

private theorem isAtMost_total (a b : Text) : (a.isAtMost b || b.isAtMost a) = true := by
  unfold isAtMost
  rw [Std.OrientedOrd.eq_swap (a := b)]
  cases compare a b <;> rfl

theorem isAtMost_antisymm {a b : Text} (hab : a.isAtMost b = true) (hba : b.isAtMost a = true) :
    a = b :=
  Std.LawfulEqOrd.eq_of_compare (Std.OrientedCmp.isLE_antisymm hab hba)

theorem pairwise_mergeSort_isAtMost (texts : List Text) :
    (texts.mergeSort isAtMost).Pairwise fun a b => a.isAtMost b = true := by
  apply List.pairwise_mergeSort
  · exact fun _ _ _ => isAtMost_trans
  · exact isAtMost_total

/-- Sorting texts forgets the order they came in. -/
theorem mergeSort_eq_of_perm {texts others : List Text} (h : texts.Perm others) :
    texts.mergeSort isAtMost = others.mergeSort isAtMost := by
  have hperm : (texts.mergeSort isAtMost).Perm (others.mergeSort isAtMost) :=
    (List.mergeSort_perm texts isAtMost).trans (h.trans (List.mergeSort_perm others isAtMost).symm)
  exact hperm.eq_of_pairwise (fun _ _ _ _ => isAtMost_antisymm) (pairwise_mergeSort_isAtMost texts)
    (pairwise_mergeSort_isAtMost others)

end Text

end CrateGuard
