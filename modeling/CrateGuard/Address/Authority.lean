import CrateGuard.Address.Internet
import CrateGuard.Address.Parts

/-! Malformed authorities. In an authority square brackets stand in pairs and hold the whole host,
which then is an Internet address of version 6 or of a version to come; a port may follow after a
colon. Code points that only look like the marks between the parts of an address are refused. -/

namespace CrateGuard.Address

/-- Whether a text is a host of a version to come: a letter `v`, the version in hexadecimal digits,
a point and at least one more code point. -/
def isFutureHost : Text → Bool
  | .char 'v' :: rest =>
    let isHex := fun c => (Text.hexValue? c).isSome
    !(rest.takeWhile isHex).isEmpty &&
      match rest.dropWhile isHex with
      | .char '.' :: _ :: _ => true
      | _ => false
  | _ => false

def isBracketHost (s : Text) : Bool :=
  isFutureHost s || Internet.isVersion6 s

/-- What stands after the last at sign of an authority. -/
def hostAndPort (authority : Text) : Text :=
  (authority.reverse.takeWhile (· != CodePoint.char '@')).reverse

/-- Whether a host in brackets and its port are in order. Nothing stands before the first bracket,
and only the colon of the port may follow the second. A host without brackets, where they stand
before the at sign only, has to be one that could stand in them. -/
def isBracketed : Text → Bool
  | .char '[' :: rest =>
    let port := (rest.dropWhile (· != CodePoint.char ']')).drop 1
    isBracketHost (rest.takeWhile (· != CodePoint.char ']')) &&
      port.head?.all (· == CodePoint.char ':')
  | s => !s.contains (.char '[') && isBracketHost (s.takeWhile (· != CodePoint.char ':'))

def hasSoundBrackets (authority : Text) : Bool :=
  match authority.contains (.char '['), authority.contains (.char ']') with
  | false, false => true
  | true, true => isBracketed (hostAndPort authority)
  | _, _ => false

/-- The code points beyond ASCII whose compatibility forms hold one of the marks `/`, `?`, `#`, `@`
and `:`. -/
def disguisedMarks : List Nat := [
  0x2047, 0x2048, 0x2049, 0x2100, 0x2101, 0x2105, 0x2106, 0x2A74, 0xFE13, 0xFE16, 0xFE55, 0xFE56,
  0xFE5F, 0xFE6B, 0xFF03, 0xFF0F, 0xFF1A, 0xFF1F, 0xFF20]

def isSound (authority : Text) : Bool :=
  hasSoundBrackets authority && !authority.any fun c => disguisedMarks.contains c.code

def isMalformed (s : Text) : Bool :=
  (authority? s).any fun authority => !isSound authority

end CrateGuard.Address
