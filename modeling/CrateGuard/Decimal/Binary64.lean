import CrateGuard.Text.Numeral

/-! Binary floating-point numbers of 64 bits, exactly. A finite number is a sign, a mantissa below
2^53 and a power of two from -1074 to 971. A decimal is rounded to the nearest such number, a tie to
the even mantissa; from half a unit above the largest one it becomes infinite. -/

namespace CrateGuard

/-- A floating-point number; a finite one is `± mantissa · 2^exponent`. -/
inductive Binary64
  | nan
  | infinite (negative : Bool)
  | finite (negative : Bool) (mantissa : Nat) (exponent : Int)
  deriving DecidableEq, Repr, Inhabited

namespace Binary64

def powerOfTwo (n : Nat) : Nat := Nat.pow 2 n

def powerOfTen (n : Nat) : Nat := Nat.pow 10 n

/-- The quotient rounded to the nearest whole number, a tie to the even one. -/
def roundedQuotient (numerator denominator : Nat) : Nat :=
  let quotient := numerator / denominator
  let twice := 2 * (numerator % denominator)
  if denominator < twice || (twice == denominator && quotient % 2 == 1) then quotient + 1
  else quotient

def divideByPower (numerator denominator : Nat) (exponent : Int) : Nat × Nat :=
  (numerator * powerOfTwo (-exponent).toNat, denominator * powerOfTwo exponent.toNat)

/-- The power of two by which a positive fraction is divided to leave a mantissa of 53 bits. -/
def exponentFor (numerator denominator : Nat) : Int :=
  let guess := (numerator.log2 : Int) - denominator.log2 - 52
  let (above, below) := divideByPower numerator denominator guess
  max (-1074) (if above < below * powerOfTwo 52 then guess - 1 else guess)

def ofFraction (negative : Bool) (numerator denominator : Nat) : Binary64 :=
  if numerator = 0 then .finite negative 0 0
  else
    let exponent := exponentFor numerator denominator
    let (above, below) := divideByPower numerator denominator exponent
    let mantissa := roundedQuotient above below
    let (mantissa, exponent) :=
      if mantissa = powerOfTwo 53 then (powerOfTwo 52, exponent + 1) else (mantissa, exponent)
    if 971 < exponent then .infinite negative else .finite negative mantissa exponent

/-- The nearest floating-point number to `± digits · 10^exponent`. Since a power of ten exceeds
the third power of two of the same exponent, numbers far out of range are known without computing
it. -/
def ofDecimal (negative : Bool) (digits : Nat) (exponent : Int) : Binary64 :=
  let reach := (digits.log2 : Int) + 3 * exponent
  if digits = 0 then .finite negative 0 0
  else if 0 ≤ exponent && 1100 < reach then .infinite negative
  else if reach < -1101 then .finite negative 0 0
  else ofFraction negative (digits * powerOfTen exponent.toNat)
    (powerOfTen (-exponent).toNat)

def isZero : Binary64 → Bool
  | .finite _ mantissa _ => mantissa == 0
  | _ => false

/-- The whole number nearest to a finite number on the side of zero. -/
def truncate? : Binary64 → Option Int
  | .finite negative mantissa exponent =>
    let (above, below) := divideByPower mantissa 1 (-exponent)
    some (Text.signed negative (above / below))
  | _ => none

def integer? : Binary64 → Option Int
  | .finite negative mantissa exponent =>
    let (above, below) := divideByPower mantissa 1 (-exponent)
    if above % below = 0 then some (Text.signed negative (above / below)) else none
  | _ => none

/-- Sameness of values: zeros of either sign are the same, and so are two that are not numbers. -/
def same : Binary64 → Binary64 → Bool
  | .nan, .nan => true
  | .infinite a, .infinite b => a == b
  | .finite a m e, .finite b n f =>
    let low := min e f
    Text.signed a (m * powerOfTwo (e - low).toNat) ==
      Text.signed b (n * powerOfTwo (f - low).toNat)
  | _, _ => false

end Binary64

end CrateGuard
