import CrateGuard.Json.Display
import CrateGuard.Proofs.Text.Numerals

/-! How the quoted form of a value opens: with the first letter of a constant, a digit, a sign, a
quote or a bracket. It is never empty, and no word with another first letter is the quoted form of a
value. -/

namespace CrateGuard

def Text.OpensWith (p : CodePoint → Prop) (s : Text) : Prop :=
  ∃ first rest, s = first :: rest ∧ p first

section
variable {p q : CodePoint → Prop} {s : Text}

theorem Text.OpensWith.ne_nil (h : s.OpensWith p) : s ≠ [] := by
  obtain ⟨first, rest, rfl, _⟩ := h
  exact List.cons_ne_nil _ _

theorem Text.OpensWith.mono (h : s.OpensWith p) (hpq : ∀ c, p c → q c) : s.OpensWith q := by
  obtain ⟨first, rest, hs, hfirst⟩ := h
  exact ⟨first, rest, hs, hpq first hfirst⟩

theorem Text.OpensWith.append (h : s.OpensWith p) (t : Text) : Text.OpensWith p (s ++ t) := by
  obtain ⟨first, rest, rfl, hfirst⟩ := h
  exact ⟨first, rest ++ t, List.cons_append, hfirst⟩

theorem Text.OpensWith.take (h : s.OpensWith p) {n : Nat} (hn : 0 < n) :
    Text.OpensWith p (s.take n) := by
  obtain ⟨first, rest, rfl, hfirst⟩ := h
  exact ⟨first, rest.take (n - 1), List.take_cons hn, hfirst⟩

end

private theorem Text.opensWith_ofString_toString (n : Nat) :
    (Text.ofString (toString n)).OpensWith (isAsciiDigit · = true) := by
  obtain ⟨hne, hdigits⟩ := isAsciiNumeral_iff.mp (isAsciiNumeral_ofString_toString n)
  obtain ⟨first, rest, hs⟩ := List.exists_cons_of_ne_nil hne
  exact ⟨first, rest, hs, hdigits first (hs ▸ List.mem_cons_self)⟩

private theorem Decimal.opensWith_write (form : Style) (d : Decimal) :
    (d.write form).OpensWith (Text.isAsciiDigit · = true) := by
  have hdigits := Text.opensWith_ofString_toString d.digits
  unfold write
  dsimp only
  split
  · split
    next hplace => exact ((hdigits.take (by omega)).append _).append _
    · exact ⟨'0', _, rfl, rfl⟩
  · exact (((hdigits.take Nat.one_pos).append _).append _).append _

/-- The code points with which quoted forms open: digits, the sign, quotes, brackets and the first
letters of the constants. -/
def Json.isOpening (c : CodePoint) : Bool :=
  Text.isAsciiDigit c || ("NTFni-'\"[\x7b" : Text).contains c

private theorem Json.isOpening_of_isAsciiDigit {c : CodePoint} (h : Text.isAsciiDigit c = true) :
    isOpening c = true := by
  rw [isOpening, h, Bool.true_or]

private theorem Binary64.opensWith_text (x : Binary64) :
    x.text.OpensWith (Json.isOpening · = true) := by
  cases x with
  | nan => exact ⟨'n', _, rfl, rfl⟩
  | infinite negative => cases negative <;> exact ⟨_, _, rfl, rfl⟩
  | finite negative mantissa exponent =>
    cases negative with
    | true => exact ⟨'-', _, rfl, rfl⟩
    | false =>
      simp only [text, Bool.false_eq_true, if_false]
      split
      · exact ⟨'0', _, rfl, rfl⟩
      · exact (Decimal.opensWith_write _ _).mono fun c => Json.isOpening_of_isAsciiDigit

/-- The quoted form of a value opens in one of these ways. -/
theorem Json.opensWith_literal (value : Json) : value.literal.OpensWith (isOpening · = true) := by
  cases value with
  | null => exact ⟨'N', _, rfl, rfl⟩
  | bool b => cases b <;> exact ⟨_, _, rfl, rfl⟩
  | int n =>
    cases n with
    | ofNat n => exact (Text.opensWith_ofString_toString n).mono fun c => isOpening_of_isAsciiDigit
    | negSucc n =>
      have hsign : toString (Int.negSucc n) = "-" ++ toString (n + 1) := rfl
      rw [literal, hsign, Text.ofString, String.toList_append]
      exact ⟨'-', _, rfl, rfl⟩
  | float x => exact x.opensWith_text
  | str s =>
    refine ⟨Text.quoteFor s, _, rfl, ?_⟩
    unfold Text.quoteFor
    split <;> rfl
  | arr items => exact ⟨'[', _, rfl, rfl⟩
  | obj fields => exact ⟨'\x7b', _, rfl, rfl⟩

end CrateGuard
