import CrateGuard.Files.Name
import CrateGuard.Text.Separated

/-! Paths in normal form: empty parts and single points are dropped, double points are kept. The
path without parts is the working directory. Not every path can be given to the file system: its
names may not hold the character with code zero, nor halves of surrogate pairs that stand for no
byte. -/

namespace CrateGuard

/-- A path; an absolute one has one slash, or exactly two, as its root. -/
structure Path where
  root : String
  parts : List Text
  deriving DecidableEq, Repr, Inhabited

/-- Why a path cannot be given to the file system. -/
inductive PathDefect
  | half
  | nul
  deriving DecidableEq, Repr

namespace Path

def rootOf : Text → String
  | .char '/' :: .char '/' :: .char '/' :: _ => "/"
  | .char '/' :: .char '/' :: _ => "//"
  | .char '/' :: _ => "/"
  | _ => ""

def ofText (s : Text) : Path :=
  ⟨rootOf s, (Text.split '/' s).filter fun part => !part.isEmpty && part != "."⟩

def here : Path := ⟨"", []⟩

def text (p : Path) : Text :=
  if p.root = "" && p.parts.isEmpty then "." else p.root ++ Text.join '/' p.parts

def below (p : Path) (names : List Text) : Path :=
  ⟨p.root, p.parts ++ names⟩

def parent (p : Path) : Path :=
  ⟨p.root, p.parts.dropLast⟩

def above (p : Path) (levels : Nat) : Path :=
  ⟨p.root, p.parts.take (p.parts.length - levels)⟩

/-- What keeps a path from being given to the file system; a half goes before a zero. -/
def defect? (p : Path) : Option PathDefect :=
  if p.parts.any fun part => part.any fun c => c.nameBytes?.isNone then some .half
  else if p.parts.any fun part => part.contains (.char '\x00') then some .nul
  else none

def names (p : Path) : List FileName :=
  p.parts.map fun part => (FileName.ofText? part).getD []

def size (p : Path) : Nat :=
  ((FileName.ofText? p.text).getD []).length

def longest : Nat := 4095

end Path

/-- A path together with the text that messages show for it. -/
structure ShownPath where
  shown : Text
  path : Path
  deriving DecidableEq, Repr

namespace ShownPath

def asWritten (s : Text) : ShownPath := ⟨s, Path.ofText s⟩

def normal (p : Path) : ShownPath := ⟨p.text, p⟩

end ShownPath

end CrateGuard
