import CrateGuard.Decimal.Binary64

/-! The shortest decimal of a floating-point number: of the decimals that round to it, those with
the fewest digits, and of these the nearest to it. It is written positionally while its first digit
stands between the ten-thousandths and the quadrillions, and with an exponent beyond. -/

namespace CrateGuard

/-- A decimal `digits · 10^exponent`. -/
structure Decimal where
  digits : Nat
  exponent : Int
  deriving DecidableEq, Repr

namespace Decimal

open Binary64 (powerOfTwo powerOfTen)

structure Style where
  /-- The lowest place of a first digit that is written positionally. -/
  lowestPlace : Int
  /-- The highest place of a first digit that is written positionally. -/
  highestPlace : Int
  /-- The least number of digits of a written exponent. -/
  exponentWidth : Nat

/-- Positional from the ten-thousandths to the quadrillions; exponents have two digits or more. -/
def style : Style := ⟨-4, 15, 2⟩

/-- A mantissa and a power of two in units of a quarter of the last place. -/
structure Scaled where
  mantissa : Nat
  exponent : Int

def Scaled.value (s : Scaled) : Nat := 4 * s.mantissa

/-- The least number of quarters that rounds to the number: half a place below it, or a quarter when
the places below are half as wide. -/
def Scaled.lower (s : Scaled) : Nat :=
  s.value - (if s.mantissa = powerOfTwo 52 && -1074 < s.exponent then 1 else 2)

/-- The greatest number of quarters that rounds to the number. -/
def Scaled.upper (s : Scaled) : Nat := s.value + 2

/-- Two factors such that `c · 10^power` is `c · a / b` quarters. -/
def Scaled.ratio (s : Scaled) (power : Int) : Nat × Nat :=
  (powerOfTen power.toNat * powerOfTwo (2 - s.exponent).toNat,
    powerOfTen (-power).toNat * powerOfTwo (s.exponent - 2).toNat)

/-- Whether `c · 10^power` rounds to the number; the ends of the interval do for an even
mantissa. -/
def Scaled.covers (s : Scaled) (power : Int) (c : Nat) : Bool :=
  let (a, b) := s.ratio power
  if s.mantissa % 2 = 0 then s.lower * b ≤ c * a && c * a ≤ s.upper * b
  else s.lower * b < c * a && c * a < s.upper * b

/-- Of the two neighbours of the number on the grid of a power of ten, those that round to it; the
nearer one if both do, and the even one of two equally near. -/
def Scaled.onGrid? (s : Scaled) (power : Int) : Option Decimal :=
  let (a, b) := s.ratio power
  let low := s.value * b / a
  let fromLow := s.value * b - low * a
  let toHigh := (low + 1) * a - s.value * b
  match s.covers power low, s.covers power (low + 1) with
  | true, true =>
    if fromLow < toHigh || (fromLow == toHigh && low % 2 == 0) then some ⟨low, power⟩
    else some ⟨low + 1, power⟩
  | true, false => some ⟨low, power⟩
  | false, true => some ⟨low + 1, power⟩
  | false, false => none

/-- The place of the first digit of the number: the greatest power of ten that it reaches. -/
def Scaled.firstPlace (s : Scaled) : Int :=
  let guess := ((s.mantissa.log2 : Int) + s.exponent) * 30103 / 100000
  let reaches (power : Int) : Bool :=
    let (a, b) := s.ratio power
    a ≤ s.value * b
  if reaches (guess + 1) then guess + 1 else if reaches guess then guess else guess - 1

/-- A decimal without trailing zeros among its digits; zero is left as it is. -/
def trimmed : Nat → Decimal → Decimal
  | 0, d => d
  | fuel + 1, d =>
    if d.digits ≠ 0 && d.digits % 10 == 0 then trimmed fuel ⟨d.digits / 10, d.exponent + 1⟩
    else d

/-- The shortest decimal that rounds to a positive number: the first grid, from one digit up to
seventeen, that has a neighbour rounding to it. -/
def shortest (mantissa : Nat) (exponent : Int) : Decimal :=
  let s : Scaled := ⟨mantissa, exponent⟩
  let place := s.firstPlace
  match (List.range 17).findSome? fun (more : Nat) => s.onGrid? (place - more) with
  | some d => d.trimmed 17
  | none => ⟨0, 0⟩

def write (form : Style) (d : Decimal) : Text :=
  let digits : Text := toString d.digits
  let place : Int := d.exponent + digits.length - 1
  if form.lowestPlace ≤ place && place ≤ form.highestPlace then
    if 0 ≤ place then
      let whole := (place + 1).toNat
      let front := digits.take whole ++ List.replicate (whole - digits.length) (.char '0')
      let back := digits.drop whole
      front ++ .char '.' :: (if back.isEmpty then [.char '0'] else back)
    else
      .char '0' :: .char '.' :: List.replicate (-place - 1).toNat (.char '0') ++ digits
  else
    let back := digits.drop 1
    let mark : Text := if place < 0 then "e-" else "e+"
    digits.take 1 ++ (if back.isEmpty then [] else .char '.' :: back) ++ mark ++
      Text.padded form.exponentWidth place.natAbs

end Decimal

def Binary64.text : Binary64 → Text
  | .nan => "nan"
  | .infinite negative => if negative then "-inf" else "inf"
  | .finite negative mantissa exponent =>
    let magnitude : Text :=
      if mantissa = 0 then "0.0" else (Decimal.shortest mantissa exponent).write Decimal.style
    if negative then "-" ++ magnitude else magnitude

end CrateGuard
