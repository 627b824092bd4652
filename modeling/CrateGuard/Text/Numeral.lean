import CrateGuard.Text.Blank
import CrateGuard.Text.Digit

/-! Whole numbers read from text. A numeral may be signed, surrounded by blanks and grouped by
single underscores between digits, in the digits of any script. Numerals of more than 4300 digits
are refused, because reading them takes time quadratic in their length. -/

namespace CrateGuard.Text

/-- The longest numeral that is read. -/
def digitLimit : Nat := 4300

inductive NumeralFault
  | malformed
  | tooLong (digits : Nat)
  deriving DecidableEq, Repr

def NumeralFault.message : NumeralFault → String
  | .malformed => "not a number"
  | .tooLong digits =>
    s!"Exceeds the limit ({digitLimit} digits) for integer string conversion: value has " ++
      s!"{digits} digits; use sys.set_int_max_str_digits() to increase the limit"

/-- Blanks around a numeral: the ASCII ones without the information separators. -/
def isNumeralBlank (c : CodePoint) : Bool :=
  (9 ≤ c.code && c.code ≤ 13) || c == ' '

def numeralForm (c : CodePoint) : CodePoint :=
  if c.code < 128 then c
  else if isBlank c then ' '
  else match decimalValue? c with
    | some value => asciiDigit value
    | none => '?'

def numeralText (s : Text) : Text :=
  trimBoth isNumeralBlank (s.map numeralForm)

/-- Removes the underscores, each of which has to stand between two digits. -/
def ungroupAfter (last : CodePoint) : Text → Option Text
  | [] => if last = '_' then none else some []
  | c :: rest =>
    if c = '_' then
      if isAsciiDigit last then ungroupAfter c rest else none
    else if last = '_' && !isAsciiDigit c then none
    else (ungroupAfter c rest).map (c :: ·)

def ungroup (s : Text) : Option Text :=
  ungroupAfter ' ' s

/-- Splits off a sign; the first part says whether the number is negative. -/
def takeSign : Text → Bool × Text
  | .char '-' :: rest => (true, rest)
  | .char '+' :: rest => (false, rest)
  | rest => (false, rest)

def signed (negative : Bool) (magnitude : Nat) : Int :=
  if negative then -(magnitude : Int) else magnitude

def readDigits (s : Text) : Except NumeralFault Nat :=
  if s.isEmpty || !s.all isAsciiDigit then .error .malformed
  else if digitLimit < s.length then .error (.tooLong s.length)
  else .ok (asciiValue s)

def readInteger (s : Text) : Except NumeralFault Int :=
  let (negative, body) := takeSign (numeralText s)
  match ungroup body with
  | none => .error .malformed
  | some digits => (readDigits digits).map (signed negative)

end CrateGuard.Text
