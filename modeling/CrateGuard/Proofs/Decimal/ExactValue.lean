import Mathlib.Data.Rat.Cast.Defs
import Mathlib.Tactic.FieldSimp
import Mathlib.Tactic.Positivity
import Mathlib.Tactic.Ring
import CrateGuard.Decimal.Binary64

/-! The exact value of a floating-point number, as a fraction. A finite number is found to be whole
if and only if its value is. -/

namespace CrateGuard.Binary64

def value? : Binary64 → Option ℚ
  | .finite negative mantissa exponent => some ((if negative then -1 else 1) * mantissa * 2 ^ exponent)
  | _ => none

private theorem mul_zpow_eq_div (mantissa : Nat) (exponent : Int) :
    (mantissa : ℚ) * 2 ^ exponent =
      ((divideByPower mantissa 1 (-exponent)).1 : ℚ) / ((divideByPower mantissa 1 (-exponent)).2 : ℚ) := by
  simp only [divideByPower, powerOfTwo, neg_neg]
  obtain ⟨n, rfl | rfl⟩ := Int.eq_nat_or_neg exponent
  · simp
  · simp [div_eq_mul_inv]

private theorem divideByPower_pos (mantissa : Nat) (exponent : Int) :
    0 < (divideByPower mantissa 1 exponent).2 := by
  rw [divideByPower, one_mul]
  exact Nat.two_pow_pos _

/-- A whole number, with or without a minus, is the quotient of a fraction without a remainder. -/
private theorem signed_quotient_iff (negative : Bool) (above : Nat) {below : Nat} (h : 0 < below)
    (n : Int) :
    (if above % below = 0 then some (Text.signed negative (above / below)) else none) = some n ↔
      (if negative then -1 else 1) * ((above : ℚ) / below) = n := by
  have hbelow : (below : ℚ) ≠ 0 := by positivity
  by_cases hmod : above % below = 0
  · obtain ⟨k, rfl⟩ := Nat.dvd_of_mod_eq_zero hmod
    rw [if_pos hmod, Nat.mul_div_cancel_left k h, Nat.cast_mul, mul_div_cancel_left₀ _ hbelow, Option.some.injEq]
    cases negative with
    | false => simp [Text.signed, ← @Int.cast_inj ℚ]
    | true => simp [Text.signed, ← @Int.cast_inj ℚ]
  · refine iff_of_false (by simp [hmod]) fun he => hmod ?_
    -- otherwise the number below divides the one above
    have hmul : (above : ℚ) = ((if negative then -1 else 1) * n) * below := by
      rw [← he]
      cases negative <;> field_simp <;> simp
    have hdvd : (below : Int) ∣ above := ⟨(if negative then -1 else 1) * n, by
      rw [mul_comm]
      cases negative <;> exact_mod_cast hmul⟩
    exact Nat.mod_eq_zero_of_dvd (Int.natCast_dvd_natCast.mp hdvd)

/-- A number is found to be whole if and only if its value is. -/
theorem integer?_eq_some_iff {x : Binary64} {n : Int} : x.integer? = some n ↔
    x.value? = some (n : ℚ) := by
  cases x with
  | nan => simp [integer?, value?]
  | infinite negative => simp [integer?, value?]
  | finite negative mantissa exponent =>
    rw [value?, Option.some.injEq, mul_assoc, mul_zpow_eq_div]
    exact signed_quotient_iff negative _ (divideByPower_pos mantissa _) n

end CrateGuard.Binary64
