import CrateGuard.Text.Printable

/-! Quoted texts. A text is quoted by apostrophes, or by double quotes when it holds an apostrophe
and no double quote. Backslashes, the enclosing quote, line ends, tabs and unprintable code points
are escaped; all else is shown as it is. -/

namespace CrateGuard.Text

def hexDigit (value : Nat) : CodePoint :=
  .char (Char.ofNat (if value < 10 then 48 + value else 87 + value))

def hexDigits : Nat → Nat → Text
  | 0, _ => []
  | width + 1, value => hexDigits width (value / 16) ++ [hexDigit (value % 16)]

def numberedEscape (c : CodePoint) : Text :=
  let n := c.code
  if n < 0x100 then .char '\\' :: .char 'x' :: hexDigits 2 n
  else if n < 0x10000 then .char '\\' :: .char 'u' :: hexDigits 4 n
  else .char '\\' :: .char 'U' :: hexDigits 8 n

def quotedPoint (quote c : CodePoint) : Text :=
  if c = quote || c = '\\' then [.char '\\', c]
  else if c = '\n' then [.char '\\', .char 'n']
  else if c = '\r' then [.char '\\', .char 'r']
  else if c = '\t' then [.char '\\', .char 't']
  else if isPrintable c then [c]
  else numberedEscape c

def quoteFor (s : Text) : CodePoint :=
  if s.contains (.char '\'') && !s.contains (.char '"') then '"' else '\''

def quoted (s : Text) : Text :=
  quoteFor s :: s.flatMap (quotedPoint (quoteFor s)) ++ [quoteFor s]

end CrateGuard.Text
