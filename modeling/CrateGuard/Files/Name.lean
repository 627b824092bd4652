import CrateGuard.Text.Encoded

/-! Names of files. A name is a row of bytes. A text names the bytes of its UTF-8 form, where a half
of a surrogate pair from U+DC80 to U+DCFF stands for a byte from 80 to FF, so that a text can name
bytes that are not UTF-8. Other halves stand in no name. -/

namespace CrateGuard

def CodePoint.nameBytes? : CodePoint → Option (List UInt8)
  | .char c => some (String.utf8EncodeChar c)
  | .half offset =>
    if 0x480 ≤ offset.val && offset.val < 0x500 then some [UInt8.ofNat (offset.val - 0x400)]
    else none

def CodePoint.ofNameByte (b : UInt8) : CodePoint :=
  CodePoint.ofCode (0xDC00 + b.toNat)

abbrev FileName := List UInt8

namespace FileName

def ofText? (s : Text) : Option FileName :=
  (s.mapM CodePoint.nameBytes?).map List.flatten

def character? (width : Nat) (name : FileName) : Option CodePoint :=
  match Text.ofBytes? ⟨(name.take width).toArray⟩ with
  | some [c] => some c
  | _ => none

def firstPoint (first : UInt8) (rest : FileName) : CodePoint × Nat :=
  match [1, 2, 3, 4].find? fun width => (character? width (first :: rest)).isSome with
  | some width => ((character? width (first :: rest)).getD default, width)
  | none => (.ofNameByte first, 1)

def text : FileName → Text
  | [] => []
  | first :: rest =>
    (firstPoint first rest).1 :: text (rest.drop ((firstPoint first rest).2 - 1))
  termination_by name => name.length
  decreasing_by
    simp only [List.length_cons, List.length_drop]
    omega

def longest : Nat := 255

def parent : FileName := [46, 46]

end FileName

end CrateGuard
