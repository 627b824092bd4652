import CrateGuard.Text.Basic

/-! The UTF-8 form of texts. A half of a surrogate pair has none, so neither has a text that holds
one. -/

namespace CrateGuard

def CodePoint.utf8? : CodePoint → Option (List UInt8)
  | .char c => some (String.utf8EncodeChar c)
  | .half _ => none

def CodePoint.isHalf : CodePoint → Bool
  | .char _ => false
  | .half _ => true

namespace Text

def utf8? (s : Text) : Option (List UInt8) :=
  (s.mapM CodePoint.utf8?).map List.flatten

def bytes? (s : Text) : Option ByteArray :=
  s.utf8?.map fun form => ⟨form.toArray⟩

def ofBytes? (bytes : ByteArray) : Option Text :=
  (String.fromUTF8? bytes).map ofString

end Text

/-- The halves in a row for which a text has no UTF-8 form, and the code of the first of them. -/
structure Unencodable where
  position : Nat
  count : Nat
  code : Nat
  deriving DecidableEq, Repr

def Text.unencodable? (s : Text) : Option Unencodable :=
  match s.dropWhile fun c => !c.isHalf with
  | [] => none
  | first :: rest =>
    some ⟨(s.takeWhile fun c => !c.isHalf).length,
      1 + (rest.takeWhile CodePoint.isHalf).length, first.code⟩

end CrateGuard
