/-! Texts. A text is a row of code points: Unicode characters, and halves of surrogate pairs that
stand alone, which an escape in JSON can write and UTF-8 cannot. Texts are ordered by their code
points, letter by letter. -/

namespace CrateGuard

inductive CodePoint
  | char (c : Char)
  /-- Half of a surrogate pair that stands alone, counted from the first of all halves. -/
  | half (offset : Fin 0x800)
  deriving DecidableEq, Repr, Inhabited

namespace CodePoint

instance : Coe Char CodePoint := ⟨.char⟩

def code : CodePoint → Nat
  | .char c => c.toNat
  | .half offset => 0xD800 + offset.val

instance : Ord CodePoint := ⟨fun a b => compare a.code b.code⟩

/-- The code point of a number: a character or, where there is none, a half. -/
def ofCode (n : Nat) : CodePoint :=
  if h : n.isValidChar then .char (Char.ofNatAux n h) else .half (Fin.ofNat 0x800 (n - 0xD800))

/-- The character to show for a code point; a half is shown as the replacement character. -/
def shownChar : CodePoint → Char
  | .char c => c
  | .half _ => '\uFFFD'

def toLower : CodePoint → CodePoint
  | .char c => .char c.toLower
  | .half offset => .half offset

def isAlphanum : CodePoint → Bool
  | .char c => c.isAlphanum
  | .half _ => false

end CodePoint

abbrev Text := List CodePoint

namespace Text

/-- The text of a string, which holds no halves. -/
def ofString (s : String) : Text := s.toList.map .char

instance : Coe String Text := ⟨ofString⟩

def shown (s : Text) : String :=
  String.ofList (s.map CodePoint.shownChar)

/-- Whether one text stands before another, or is the same, in the order of code points. -/
def isAtMost (a b : Text) : Bool :=
  (compare a b).isLE

def toLower (s : Text) : Text :=
  s.map CodePoint.toLower

def listed (between : Text) (parts : List Text) : Text :=
  between.intercalate parts

end Text

end CrateGuard
