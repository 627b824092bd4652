import CrateGuard.Version.Canonical
import CrateGuard.Version.Parser

/-! Precedence of versions. The core numbers decide first. Of versions with equal cores, one without
a label is higher; labels are compared part by part, numbers below words, numbers by value, words by
code point, and of two labels that agree as far as the shorter goes, the one with more parts is
higher. -/

namespace CrateGuard

inductive Rank
  | number (value : Nat)
  | word (s : Text)
  deriving DecidableEq, Repr

namespace Rank

/-- The rank of a part of a label: a row of decimal digits is a number. -/
def ofPart (part : Text) : Rank :=
  match if part.isEmpty then none else Text.decimalNumber? part with
  | some value => .number value
  | none => .word part

/-- Whether a part of a label can be read. A row of digits has to write a number, and a long one to
write it in ASCII. -/
def isReadable (part : Text) : Bool :=
  !Text.isNumeral part || part.all Text.isAsciiDigit ||
    part.all Text.isDecimal && part.length ≤ Text.digitLimit

/-- Numbers stand below words. -/
def order : Rank → Rank → Ordering
  | .number a, .number b => compare a b
  | .number _, .word _ => .lt
  | .word _, .number _ => .gt
  | .word a, .word b => compare a b

/-- The order of the first pair of parts that differ, and else that of the numbers of parts. -/
def orderParts : List Rank → List Rank → Ordering
  | [], [] => .eq
  | [], _ :: _ => .lt
  | _ :: _, [] => .gt
  | a :: as, b :: bs => (order a b).then (orderParts as bs)

end Rank

namespace CanonicalVersion

/-- The parts of the label; no label counts as an empty one, which has one empty part. -/
def parts (v : CanonicalVersion) : List Text :=
  Text.split '.' (v.label.getD [])

def orderLabels (a b : CanonicalVersion) : Ordering :=
  Rank.orderParts (a.parts.map Rank.ofPart) (b.parts.map Rank.ofPart)

def orderCores (a b : CanonicalVersion) : Ordering :=
  (compare a.major b.major).then ((compare a.minor b.minor).then (compare a.patch b.patch))

def orderPrereleases (a b : CanonicalVersion) : Ordering :=
  match orderLabels a b, a.label, b.label with
  | .eq, _, _ => .eq
  | _, none, _ => .gt
  | _, _, none => .lt
  | order, some _, some _ => order

/-- The precedence of canonical versions. -/
def order (a b : CanonicalVersion) : Ordering :=
  (orderCores a b).then (orderPrereleases a b)

def isReadable (v : CanonicalVersion) : Bool :=
  v.parts.all Rank.isReadable

end CanonicalVersion

namespace Version

/-- The precedence of two versions as they were read. The first is brought into canonical form
before a fault of the second counts; the labels are read only if the cores are equal. -/
def orderRead (a b : Except VersionFault Version) : Except VersionFault Ordering := do
  let a ← a >>= canonical
  let b ← b >>= canonical
  if a.orderCores b = .eq && !(a.isReadable && b.isReadable) then throw .unreadableIdentifier
  return a.order b

/-- The precedence of two versions. -/
def order (a b : Version) : Except VersionFault Ordering :=
  orderRead (.ok a) (.ok b)

def orderTexts (a b : Text) : Except VersionFault Ordering :=
  orderRead (parse a) (parse b)

end Version

end CrateGuard
