import CrateGuard.Text.Digit

/-! Addresses and their parts. A text that starts with a scheme and a colon is an address, and no
path, if the scheme is a known one. What follows a scheme, known or not, or a text without one may
start with two slashes and an authority, which names a host. -/

namespace CrateGuard.Address

def schemes : List Text := [
  "ftp", "http", "gopher", "nntp", "imap", "wais", "file", "https", "shttp", "mms", "prospero",
  "rtsp", "rtspu", "sftp", "svn", "svn+ssh", "ws", "wss", "telnet", "snews", "rsync", "nfs", "git",
  "git+ssh", "hdl", "sip", "sips", "tel"]

/-- Tabs and line ends, which are passed over wherever they stand. -/
def isPassedOver (c : CodePoint) : Bool :=
  c == '\t' || c == '\n' || c == '\r'

/-- A text without what is passed over in it, nor control characters and spaces in front. -/
def bare (s : Text) : Text :=
  (s.dropWhile fun c => c.code ≤ 32).filter fun c => !isPassedOver c

def kind (s : Text) : Text :=
  Text.toLower (s.takeWhile (· != CodePoint.char ':'))

def body (s : Text) : Text :=
  (s.dropWhile (· != CodePoint.char ':')).drop 1

def isSchemeMark (c : CodePoint) : Bool :=
  c.isAlphanum || c == '+' || c == '-' || c == '.'

def isScheme : Text → Bool
  | [] => false
  | c :: rest => c.isAlphanum && !Text.isAsciiDigit c && rest.all isSchemeMark

def scheme? (s : Text) : Option Text :=
  if s.contains (.char ':') && isScheme (kind s) then some (kind s) else none

def isAddress (s : Text) : Bool :=
  (scheme? (bare s)).any schemes.contains

def afterScheme (s : Text) : Text :=
  if (scheme? s).isSome then body s else s

def endsAuthority (c : CodePoint) : Bool :=
  c == '/' || c == '?' || c == '#'

def authority? (s : Text) : Option Text :=
  match afterScheme (bare s) with
  | .char '/' :: .char '/' :: rest => some (rest.takeWhile fun c => !endsAuthority c)
  | _ => none

end CrateGuard.Address
