import CrateGuard.Text.Encoded

/-! The text of bytes that need not be UTF-8. Bytes that begin a character and are not carried on as
it demands are read as one replacement character, and so is a byte with which no character
begins. -/

namespace CrateGuard.Text

/-- The ranges in which the bytes after a first one have to lie. -/
def continuations (first : UInt8) : List (UInt8 × UInt8) :=
  if 0xC2 ≤ first && first ≤ 0xDF then [(0x80, 0xBF)]
  else if first == 0xE0 then [(0xA0, 0xBF), (0x80, 0xBF)]
  else if first == 0xED then [(0x80, 0x9F), (0x80, 0xBF)]
  else if 0xE1 ≤ first && first ≤ 0xEF then [(0x80, 0xBF), (0x80, 0xBF)]
  else if first == 0xF0 then [(0x90, 0xBF), (0x80, 0xBF), (0x80, 0xBF)]
  else if 0xF1 ≤ first && first ≤ 0xF3 then [(0x80, 0xBF), (0x80, 0xBF), (0x80, 0xBF)]
  else if first == 0xF4 then [(0x80, 0x8F), (0x80, 0xBF), (0x80, 0xBF)]
  else []

def takeWithin : List (UInt8 × UInt8) → List UInt8 → List UInt8
  | range :: ranges, byte :: bytes =>
    if range.1 ≤ byte && byte ≤ range.2 then byte :: takeWithin ranges bytes else []
  | _, _ => []

/-- The code point of the bytes of a character, or the replacement character. -/
def pointOfBytes (bytes : List UInt8) : CodePoint :=
  match ofBytes? ⟨bytes.toArray⟩ with
  | some [c] => c
  | _ => .char '\uFFFD'

def ofBytes : List UInt8 → Text
  | [] => []
  | first :: rest =>
    let later := takeWithin (continuations first) rest
    pointOfBytes (first :: later) :: ofBytes (rest.drop later.length)
  termination_by bytes => bytes.length
  decreasing_by
    simp only [List.length_cons, List.length_drop]
    omega

end CrateGuard.Text
