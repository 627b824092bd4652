import CrateGuard.Text.Basic

/-! Digits. Versions are written in ASCII digits; dates and whole-number texts admit the decimal
digits of every script, each of which comes in a run of ten from its zero. -/

namespace CrateGuard.Text

def isAsciiDigit (c : CodePoint) : Bool :=
  48 ≤ c.code && c.code ≤ 57

/-- The zeros of the scripts that write decimal numbers. -/
def zeroDigits : List Nat := [
  0x30, 0x660, 0x6f0, 0x7c0, 0x966, 0x9e6, 0xa66, 0xae6, 0xb66, 0xbe6, 0xc66, 0xce6, 0xd66, 0xde6,
  0xe50, 0xed0, 0xf20, 0x1040, 0x1090, 0x17e0, 0x1810, 0x1946, 0x19d0, 0x1a80, 0x1a90, 0x1b50,
  0x1bb0, 0x1c40, 0x1c50, 0xa620, 0xa8d0, 0xa900, 0xa9d0, 0xa9f0, 0xaa50, 0xabf0, 0xff10, 0x104a0,
  0x10d30, 0x11066, 0x110f0, 0x11136, 0x111d0, 0x112f0, 0x11450, 0x114d0, 0x11650, 0x116c0,
  0x11730, 0x118e0, 0x11950, 0x11c50, 0x11d50, 0x11da0, 0x16a60, 0x16ac0, 0x16b50, 0x1d7ce,
  0x1d7d8, 0x1d7e2, 0x1d7ec, 0x1d7f6, 0x1e140, 0x1e2f0, 0x1e950, 0x1fbf0]

def decimalValue? (c : CodePoint) : Option Nat :=
  (zeroDigits.find? fun base => base ≤ c.code && c.code ≤ base + 9).map (c.code - ·)

def isDecimal (c : CodePoint) : Bool :=
  (decimalValue? c).isSome

/-- Superscript, subscript, circled and other digits that stand for no place of a decimal number. -/
def ornamentalDigits : List (Nat × Nat) := [
  (0xb2, 0xb3), (0xb9, 0xb9), (0x1369, 0x1371), (0x19da, 0x19da), (0x2070, 0x2070),
  (0x2074, 0x2079), (0x2080, 0x2089), (0x2460, 0x2468), (0x2474, 0x247c), (0x2488, 0x2490),
  (0x24ea, 0x24ea), (0x24f5, 0x24fd), (0x24ff, 0x24ff), (0x2776, 0x277e), (0x2780, 0x2788),
  (0x278a, 0x2792), (0x10a40, 0x10a43), (0x10e60, 0x10e68), (0x11052, 0x1105a),
  (0x1f100, 0x1f10a)]

def isDigitLike (c : CodePoint) : Bool :=
  isDecimal c || ornamentalDigits.any fun r => r.1 ≤ c.code && c.code ≤ r.2

/-- A row of digits, decimal or ornamental. Only one of decimal digits writes a number. -/
def isNumeral (s : Text) : Bool :=
  !s.isEmpty && s.all isDigitLike

def asciiDigit (value : Nat) : CodePoint :=
  .char (Char.ofNat (48 + value))

def hexValue? (c : CodePoint) : Option Nat :=
  let n := c.code
  if 48 ≤ n && n ≤ 57 then some (n - 48)
  else if 97 ≤ n && n ≤ 102 then some (n - 87)
  else if 65 ≤ n && n ≤ 70 then some (n - 55)
  else none

def digitsValue (values : List Nat) : Nat :=
  values.foldl (fun total value => total * 10 + value) 0

def asciiValue (s : Text) : Nat :=
  digitsValue (s.map fun c => c.code - 48)

def decimalNumber? (s : Text) : Option Nat :=
  (s.mapM decimalValue?).map digitsValue

def padded (width value : Nat) : Text :=
  let digits : Text := toString value
  List.replicate (width - digits.length) (.char '0') ++ digits

end CrateGuard.Text
