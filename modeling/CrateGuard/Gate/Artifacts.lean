import CrateGuard.Address.Authority
import CrateGuard.Address.Opening
import CrateGuard.Gate.Act
import CrateGuard.Gate.World
import CrateGuard.Report.Csv
import CrateGuard.Report.Summary

/-! The artifacts of a watch: a summary that is appended to a file, and the table as a file of its
own. One that cannot be written is reported and changes nothing else, unless its path cannot be
given to the file system or its text has no UTF-8 form. -/

namespace CrateGuard.Artifact

def summaryRefused (place : ShownPath) (fault : FileFault) : Message :=
  let error : FileError := ⟨fault, place.path⟩
  .err (watchTool ++ ": cannot write summary to " ++ place.shown ++ " (" ++ error.message ++ ")")

def summaryBytes : Option Text → Except Crash ByteArray
  | none => .error .outsideCalendar
  | some text =>
    match text.bytes? with
    | some bytes => .ok bytes
    | none => .error .unencodable

/-- Appends a summary to a file. The file is opened, and so created if there is none, before it
turns out that there is no summary because the moment has no timestamp, or that it has no UTF-8
form. -/
def appendSummary (place : ShownPath) (summary : Option Text) : Act Unit := fun files =>
  match place.path.defect? with
  | some defect => (files, Run.crash defect.crash)
  | none =>
    match files.append place.path ByteArray.empty with
    | .error fault => (files, Run.say [summaryRefused place fault])
    | .ok opened =>
      match summaryBytes summary with
      | .error crash => (opened, Run.crash crash)
      | .ok bytes =>
        match opened.append place.path bytes with
        | .error fault => (opened, Run.say [summaryRefused place fault])
        | .ok written =>
          (written,
            Run.log .info "dependency_gate.reporting" ("Appended summary to " ++ place.path.text))

def tableName : Text := "dependency_watch_outcomes.csv"

inductive TableFault
  | refused (error : FileError)
  | noDirectory (path : Path)
  | address (fault : AddressFault)

def TableFault.message : TableFault → Text
  | .refused error => error.message
  | .noDirectory path =>
    "Cannot save file into a non-existent directory: '" ++ path.text ++ "'"
  | .address fault => fault.message

def saveInFile (files : FileTree) (path : Path) (table : ByteArray) :
    Except TableFault FileTree :=
  if !files.isDirectory path.parent then .error (.noDirectory path.parent)
  else (files.write path table).mapError fun fault => .refused ⟨fault, path⟩

/-- Saves the table under a written path, in which a tilde may stand for a home directory. Under an
address nothing is saved, even if it can be opened. Whether an authority is well formed is looked at
before it is known whether the text is an address at all. -/
def save (world : World) (files : FileTree) (target : Text) (rows : List TableRow) :
    Except Crash (Except TableFault FileTree) :=
  if Address.isMalformed target then .error .malformedAuthority
  else if Address.isAddress target then
    match Address.tryOpen files target with
    | .error defect => .error defect.crash
    | .ok (.error fault) => .ok (.error (.address fault))
    | .ok (.ok ()) => .ok (.ok files)
  else
    let path := Path.ofText (world.expandHome target)
    .ok (saveInFile files path (Csv.bytes world.quotesToo rows))

def tableRefused (directory : ShownPath) (fault : TableFault) : Message :=
  .err (watchTool ++ ": cannot write outcome table to " ++ directory.shown ++ " (" ++
    fault.message ++ ")")

/-- What is left to say of a table that is saved as far as it has a UTF-8 form. -/
def concludeTable (path : Path) (rows : List TableRow) : Run Unit :=
  if Csv.isEncodable rows then
    Run.log .info "dependency_gate.runner" ("Outcome table saved to " ++ path.text)
  else Run.crash .unencodable

def makeAndWriteTable (world : World) (directory : ShownPath) (rows : List TableRow) : Act Unit :=
  fun files =>
    let path := directory.path.below [tableName]
    match files.ensureDirectories directory.path with
    | (made, some error) => (made, Run.say [tableRefused directory (.refused error)])
    | (made, none) =>
      match save world made path.text rows with
      | .error crash => (made, Run.crash crash)
      | .ok (.error fault) => (made, Run.say [tableRefused directory fault])
      | .ok (.ok written) => (written, concludeTable path rows)

/-- Writes the table into a directory, which is made if it is not there; of a directory that lies
too deep nothing is made. -/
def writeTable (world : World) (directory : ShownPath) (rows : List TableRow) : Act Unit :=
  fun files =>
    match directory.path.defect? with
    | some defect => (files, Run.crash defect.crash)
    | none =>
      if files.isTooDeep directory.path then (files, Run.crash .pathTooDeep)
      else makeAndWriteTable world directory rows files

end CrateGuard.Artifact
