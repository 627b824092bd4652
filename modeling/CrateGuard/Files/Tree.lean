import CrateGuard.Files.Path
import CrateGuard.Text.Quoted

/-! The files that a run sees. A path is walked name by name from the working directory or, if it is
absolute, from the root; every place it passes has to be a directory. Names and paths have a largest
length. The root, the working directory and the directories above it exist. -/

namespace CrateGuard

/-- A place in the file system: where its walk starts, the number of levels above the working
directory from which its names lead down, and the names. No level is above the root. -/
structure Place where
  absolute : Bool
  above : Nat
  names : List FileName
  deriving Repr

/-- Places are equal if their parts are; of places at different depths no names are compared. -/
instance : DecidableEq Place := fun a b =>
  if h : a.absolute = b.absolute ∧ a.above = b.above ∧ a.names.length = b.names.length ∧
      a.names = b.names then
    isTrue (by cases a; cases b; simp_all)
  else isFalse (by rintro rfl; exact h ⟨rfl, rfl, rfl, rfl⟩)

namespace Place

def here : Place := ⟨false, 0, []⟩

def root : Place := ⟨true, 0, []⟩

def parent (place : Place) : Place :=
  if !place.names.isEmpty then ⟨place.absolute, place.above, place.names.dropLast⟩
  else if place.absolute then place
  else ⟨false, place.above + 1, []⟩

/-- The place that a name leads to; two points lead one level up. -/
def step (place : Place) (name : FileName) : Place :=
  if name = FileName.parent then place.parent
  else ⟨place.absolute, place.above, place.names ++ [name]⟩

def isBelow (place other : Place) : Bool :=
  place.absolute == other.absolute && place.above == other.above &&
    other.names.isPrefixOf place.names

end Place

def Path.start (path : Path) : Place :=
  if path.root = "" then Place.here else Place.root

inductive Entry
  | directory
  | file (bytes : ByteArray)
  deriving Inhabited

instance : DecidableEq Entry
  | .directory, .directory => isTrue rfl
  | .directory, .file _ => isFalse nofun
  | .file _, .directory => isFalse nofun
  | .file ⟨a⟩, .file ⟨b⟩ =>
    if h : a = b then isTrue (h ▸ rfl) else isFalse fun e => by cases e; exact h rfl

inductive FileFault
  | missing
  | alreadyThere
  | notDirectory
  | isDirectory
  | nameTooLong
  deriving DecidableEq, Repr

structure FileError where
  fault : FileFault
  path : Path
  deriving DecidableEq, Repr

def FileFault.message : FileFault → String
  | .missing => "[Errno 2] No such file or directory"
  | .alreadyThere => "[Errno 17] File exists"
  | .notDirectory => "[Errno 20] Not a directory"
  | .isDirectory => "[Errno 21] Is a directory"
  | .nameTooLong => "[Errno 36] File name too long"

def FileError.message (e : FileError) : Text :=
  e.fault.message ++ ": " ++ Text.quoted e.path.text

/-- The files and directories that are known, each at its place. -/
structure FileTree where
  entries : List (Place × Entry)
  deriving Inhabited

namespace FileTree

def empty : FileTree := ⟨[]⟩

def entryAt (tree : FileTree) (place : Place) : Option Entry :=
  if place.names.isEmpty then some .directory
  else (tree.entries.find? fun known => known.1 == place).map (·.2)

def putEntry (place : Place) (entry : Entry) : List (Place × Entry) → List (Place × Entry)
  | [] => [(place, entry)]
  | known :: rest =>
    if known.1 = place then (place, entry) :: rest else known :: putEntry place entry rest

def put (tree : FileTree) (place : Place) (entry : Entry) : FileTree :=
  ⟨putEntry place entry tree.entries⟩

def remove (tree : FileTree) (place : Place) : FileTree :=
  ⟨tree.entries.filter fun known => !known.1.isBelow place⟩

/-- Walks from a place along names; every place left behind has to be a directory. -/
def walk (tree : FileTree) (place : Place) : List FileName → Except FileFault Place
  | [] => .ok place
  | name :: names =>
    match tree.entryAt place with
    | none => .error .missing
    | some (.file _) => .error .notDirectory
    | some .directory =>
      if FileName.longest < name.length then .error .nameTooLong
      else walk tree (place.step name) names

def locate (tree : FileTree) (path : Path) : Except FileFault Place :=
  if Path.longest < path.size then .error .nameTooLong
  else tree.walk path.start path.names

def find (tree : FileTree) (path : Path) : Except FileFault Entry := do
  match tree.entryAt (← tree.locate path) with
  | none => throw .missing
  | some entry => return entry

def entry? (tree : FileTree) (path : Path) : Option Entry :=
  (tree.find path).toOption

def isDirectory (tree : FileTree) (path : Path) : Bool :=
  tree.entry? path = some .directory

def read (tree : FileTree) (path : Path) : Except FileFault ByteArray := do
  match ← tree.find path with
  | .directory => throw .isDirectory
  | .file bytes => return bytes

/-- Changes the bytes of the file at a path, which is created empty if there is none. -/
def modify (tree : FileTree) (path : Path) (change : ByteArray → ByteArray) :
    Except FileFault FileTree := do
  let place ← tree.locate path
  match tree.entryAt place with
  | none => return tree.put place (.file (change ByteArray.empty))
  | some .directory => throw .isDirectory
  | some (.file bytes) => return tree.put place (.file (change bytes))

def append (tree : FileTree) (path : Path) (bytes : ByteArray) : Except FileFault FileTree :=
  tree.modify path (· ++ bytes)

def write (tree : FileTree) (path : Path) (bytes : ByteArray) : Except FileFault FileTree :=
  tree.modify path fun _ => bytes

/-- Follows names through directories to the one in which a name is missing; gives that directory
and the names from the missing one on, which are none if every name leads to a directory. -/
def missingFrom (tree : FileTree) (place : Place) :
    List FileName → Except FileFault (Place × List FileName)
  | [] => .ok (place, [])
  | name :: names =>
    if FileName.longest < name.length then .error .nameTooLong
    else match tree.entryAt (place.step name) with
      | none => .ok (place, name :: names)
      | some .directory => missingFrom tree (place.step name) names
      | some (.file _) => .error (if names.isEmpty then .alreadyThere else .notDirectory)

def missingPart (tree : FileTree) (path : Path) : Except FileFault (Place × List FileName) :=
  if Path.longest < path.size then .error .nameTooLong
  else tree.missingFrom path.start path.names

/-- The largest number of directories that are made one inside the other. -/
def depthLimit : Nat := 984

def isTooDeep (tree : FileTree) (path : Path) : Bool :=
  match tree.missingPart path with
  | .ok (_, missing) => depthLimit < missing.length
  | .error _ => false

/-- Makes the directories that names lead to, each inside the one before; those that are there will
do. Those made before a refusal stay. A refusal comes with the number of names that are left. -/
def makeAlong (tree : FileTree) (place : Place) :
    List FileName → FileTree × Option (FileFault × Nat)
  | [] => (tree, none)
  | name :: names =>
    if FileName.longest < name.length then (tree, some (.nameTooLong, names.length))
    else match tree.entryAt (place.step name) with
      | none => makeAlong (tree.put (place.step name) .directory) (place.step name) names
      | some .directory => makeAlong tree (place.step name) names
      | some (.file _) => (tree, some (.alreadyThere, names.length))

/-- Makes a directory with the directories above it as needed. What refuses the whole path as it
stands is said of all of it, what refuses a directory on the way of the path to that one. -/
def ensureDirectories (tree : FileTree) (path : Path) : FileTree × Option FileError :=
  match tree.missingPart path with
  | .error fault => (tree, some ⟨fault, path⟩)
  | .ok (place, missing) =>
    match tree.makeAlong place missing with
    | (made, none) => (made, none)
    | (made, some (fault, left)) => (made, some ⟨fault, path.above left⟩)

end FileTree

end CrateGuard
