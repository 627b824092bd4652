import CrateGuard.Text.Digit
import CrateGuard.Text.Separated

/-! Internet addresses. One of version 4 is four numbers below 256 between points. One of version 6
is eight groups of hexadecimal digits between colons, the last two of which may be written as an
address of version 4; two colons side by side stand, once, for groups left out. -/

namespace CrateGuard.Internet

/-- One of the four numbers of an address of version 4. It has no leading zeros. -/
def isOctet (s : Text) : Bool :=
  !s.isEmpty && s.length ≤ 3 && s.all Text.isAsciiDigit && (s = "0" || s.head? ≠ some '0') &&
    Text.asciiValue s < 256

def isVersion4 (s : Text) : Bool :=
  let octets := Text.split '.' s
  octets.length = 4 && octets.all isOctet

def isGroup (s : Text) : Bool :=
  !s.isEmpty && s.length ≤ 4 && s.all fun c => (Text.hexValue? c).isSome

def groups? (parts : List Text) : Option (List Text) :=
  match parts.getLast? with
  | some last =>
    if !last.contains (.char '.') then some parts
    else if isVersion4 last then some (parts.dropLast ++ (["0", "0"] : List Text))
    else none
  | none => some parts

/-- The groups on one side of a gap. A side of one empty part has none. -/
def side (parts : List Text) : List Text :=
  if parts = [[]] then [] else parts

/-- Whether groups make up an address of version 6. A gap, which is an empty part with parts before
and after it, stands for one group or more. -/
def isComplete (groups : List Text) : Bool :=
  match (groups.drop 1).dropLast.findIdx? List.isEmpty with
  | none => groups.length = 8 && groups.all isGroup
  | some gap =>
    let written := side (groups.take (gap + 1)) ++ side (groups.drop (gap + 2))
    written.length < 8 && written.all isGroup

/-- Whether a text is an address of version 6. A zone may follow it after a percent sign. -/
def isVersion6 (s : Text) : Bool :=
  let isAddress := fun groups => (groups? (Text.split ':' groups)).any isComplete
  match Text.split '%' s with
  | [groups] => isAddress groups
  | [groups, zone] => isAddress groups && !zone.isEmpty && !zone.contains (.char '/')
  | _ => false

end CrateGuard.Internet
