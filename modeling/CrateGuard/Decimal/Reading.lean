import CrateGuard.Decimal.Binary64

/-! Floating-point numbers read from text. A number may be signed, surrounded by blanks and grouped
by single underscores between digits; it has digits before or after a point, or both, and optionally
an exponent. The words for infinity and for what is no number are read too. -/

namespace CrateGuard.Binary64

def readExponent? (s : Text) : Option Int :=
  let (negative, digits) := Text.takeSign s
  if digits.isEmpty || !digits.all Text.isAsciiDigit then none
  else some (Text.signed negative (Text.asciiValue digits))

def readScale? : Text → Option Int
  | [] => some 0
  | mark :: rest => if mark = 'e' || mark = 'E' then readExponent? rest else none

def takeFraction : Text → Text × Text
  | .char '.' :: rest => (rest.takeWhile Text.isAsciiDigit, rest.dropWhile Text.isAsciiDigit)
  | s => ([], s)

def readDecimal? (negative : Bool) (s : Text) : Option Binary64 :=
  let whole := s.takeWhile Text.isAsciiDigit
  let (fraction, rest) := takeFraction (s.dropWhile Text.isAsciiDigit)
  if whole.isEmpty && fraction.isEmpty then none
  else (readScale? rest).map fun scale =>
    ofDecimal negative (Text.asciiValue (whole ++ fraction)) (scale - fraction.length)

def readUnsigned? (negative : Bool) (s : Text) : Option Binary64 :=
  let word := Text.toLower s
  if word = "inf" || word = "infinity" then some (.infinite negative)
  else if word = "nan" then some .nan
  else readDecimal? negative s

def read? (s : Text) : Option Binary64 :=
  (Text.ungroup (Text.numeralText s)).bind fun digits =>
    let (negative, body) := Text.takeSign digits
    readUnsigned? negative body

end CrateGuard.Binary64
