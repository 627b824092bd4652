import CrateGuard.Text.Decoded
import CrateGuard.Text.Digit

/-! Percent encoding of one segment of a web address. Letters, digits and `_.~-` stand for
themselves; every other code point is written as the bytes of its UTF-8 form, each a percent sign
and two upper-case hexadecimal digits. Decoding takes the digits of either case, and what writes no
byte as it stands. -/

namespace CrateGuard.Text

def isUnreserved (c : CodePoint) : Bool :=
  c.isAlphanum || c == '_' || c == '.' || c == '-' || c == '~'

def upperHexDigit (value : Nat) : CodePoint :=
  .char (Char.ofNat (if value < 10 then 48 + value else 55 + value))

def percentByte (b : UInt8) : Text :=
  [.char '%', upperHexDigit (b.toNat / 16), upperHexDigit (b.toNat % 16)]

def percentForm? (c : CodePoint) : Option Text :=
  if isUnreserved c then some [c] else c.utf8?.map (List.flatMap percentByte)

def percentEncode? (s : Text) : Option Text :=
  (s.mapM percentForm?).map List.flatten

def percentBytes : Text → List UInt8
  | [] => []
  | .char '%' :: high :: low :: rest =>
    match hexValue? high, hexValue? low with
    | some a, some b => UInt8.ofNat (a * 16 + b) :: percentBytes rest
    | _, _ => 37 :: percentBytes (high :: low :: rest)
  | c :: rest => UInt8.ofNat c.code :: percentBytes rest

/-- A run of code points that are all ASCII, decoded, or of others, as it is. -/
def percentDecodeRun (run : Text) : Text :=
  if run.all fun c => c.code < 128 then ofBytes (percentBytes run) else run

def percentDecode (s : Text) : Text :=
  (s.splitBy fun a b => (a.code < 128) == (b.code < 128)).flatMap percentDecodeRun

end CrateGuard.Text
