import CrateGuard.Text.Separated

/-! Versions: three core numbers and a row of prerelease identifiers. Build metadata is not kept. -/

namespace CrateGuard

structure Version where
  major : Int
  minor : Int
  patch : Int
  prerelease : List Text
  deriving DecidableEq, Repr, Inhabited

namespace Version

def coreText (v : Version) : Text :=
  s!"{v.major}.{v.minor}.{v.patch}"

def text (v : Version) : Text :=
  if v.prerelease.isEmpty then v.coreText
  else v.coreText ++ "-" ++ Text.join '.' v.prerelease

end Version

inductive VersionRefusal
  | notText (kind : String)
  | malformed (text : Text)
  | emptyIdentifier (text : Text)
  deriving DecidableEq, Repr

inductive VersionFault
  | refused (refusal : VersionRefusal)
  | longNumeral
  | unreadableIdentifier
  | negativeNumber
  deriving DecidableEq, Repr

end CrateGuard
