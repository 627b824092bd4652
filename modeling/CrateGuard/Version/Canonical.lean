import CrateGuard.Text.Digit
import CrateGuard.Text.Numeral
import CrateGuard.Version.Basic

/-! Canonical versions. The core numbers are not negative, and the identifiers are joined into one
label in which those made of digits have lost their leading zeros, so that equal numbers are written
alike. -/

namespace CrateGuard

/-- A version in canonical form; the label is never empty. -/
structure CanonicalVersion where
  major : Nat
  minor : Nat
  patch : Nat
  label : Option Text
  deriving DecidableEq, Repr

namespace Version

def canonicalIdentifier (identifier : Text) : Except VersionFault Text :=
  if !Text.isNumeral identifier then .ok identifier
  else match Text.decimalNumber? identifier with
    | none => .error .unreadableIdentifier
    | some number =>
      if Text.digitLimit < identifier.length then .error .longNumeral
      else .ok (Text.ofString (toString number))

def canonicalNumber : Int → Except VersionFault Nat
  | .ofNat n => .ok n
  | .negSucc _ => .error .negativeNumber

def labelText (identifiers : List Text) : Option Text :=
  let label := Text.join '.' identifiers
  if label.isEmpty then none else some label

def canonical (v : Version) : Except VersionFault CanonicalVersion := do
  let identifiers ← v.prerelease.mapM canonicalIdentifier
  let major ← canonicalNumber v.major
  let minor ← canonicalNumber v.minor
  let patch ← canonicalNumber v.patch
  return ⟨major, minor, patch, labelText identifiers⟩

end Version

end CrateGuard
