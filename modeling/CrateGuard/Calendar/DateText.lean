import CrateGuard.Calendar.Date
import CrateGuard.Text.Digit

/-! Days as text. A day is written `YYYY-MM-DD`. It is also read when month or day lack their
leading zero, when the day has a space in its place, and in decimal digits of other scripts where
the year or the second digit of a day in the tens or twenties stands. -/

namespace CrateGuard.Date

def text (d : Date) : Text :=
  Text.padded 4 d.year ++ "-" ++ Text.padded 2 d.month ++ "-" ++ Text.padded 2 d.day

def isCountingDigit (c : CodePoint) : Bool :=
  49 ≤ c.code && c.code ≤ 57

def digitOf (c : CodePoint) : Nat := c.code - 48

def takeOneDigit : Text → Option (Nat × Text)
  | c :: rest => if isCountingDigit c then some (digitOf c, rest) else none
  | [] => none

/-- Reads a month: `10` to `12`, or one digit with or without a zero before it. -/
def takeMonth (s : Text) : Option (Nat × Text) :=
  match s with
  | .char '1' :: c :: rest =>
    if c = '0' || c = '1' || c = '2' then some (10 + digitOf c, rest) else takeOneDigit s
  | .char '0' :: rest => takeOneDigit rest
  | _ => takeOneDigit s

/-- Reads a day of a month: `30` or `31`, a ten or twenty, or one digit with or without a zero or a
space before it. -/
def takeDay (s : Text) : Option (Nat × Text) :=
  match s with
  | .char '3' :: c :: rest =>
    if c = '0' || c = '1' then some (30 + digitOf c, rest) else takeOneDigit s
  | .char '0' :: rest => takeOneDigit rest
  | .char ' ' :: rest => takeOneDigit rest
  | tens :: c :: rest =>
    if tens = '1' || tens = '2' then
      match Text.decimalValue? c with
      | some ones => some (10 * digitOf tens + ones, rest)
      | none => takeOneDigit s
    else takeOneDigit s
  | _ => takeOneDigit s

/-- The day that a text writes, of which nothing may be left over. -/
def read? : Text → Option Date
  | y :: e :: a :: r :: .char '-' :: rest => do
    let year ← Text.decimalNumber? [y, e, a, r]
    match ← takeMonth rest with
    | (month, .char '-' :: afterMonth) =>
      match ← takeDay afterMonth with
      | (day, []) => of? year month day
      | _ => none
    | _ => none
  | _ => none

end CrateGuard.Date
