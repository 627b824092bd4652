import CrateGuard.Address.Parts
import CrateGuard.Files.Tree
import CrateGuard.Text.Blank
import CrateGuard.Text.Percent

/-! Opening addresses. Only an address of a file leads anywhere, and what it leads to can be looked
at but not written. -/

namespace CrateGuard

inductive AddressFault
  /-- The file system refuses what the address of a file selects. -/
  | refused (fault : FileFault) (selector : Text)
  | noHost
  | noTransferHost
  | unknownKind (kind : Text)
  deriving DecidableEq, Repr

def AddressFault.message (fault : AddressFault) : Text :=
  let reason : Text := match fault with
    | .refused fault selector => fault.message ++ ": " ++ Text.quoted selector
    | .noHost => "no host given"
    | .noTransferHost => "ftp error: no host given"
    | .unknownKind kind => "unknown url type: " ++ kind
  "<urlopen error " ++ reason ++ ">"

namespace Address

def withoutTag (s : Text) : Text :=
  if s.contains (.char '#') then
    ((s.reverse.dropWhile (· != CodePoint.char '#')).drop 1).reverse
  else s

/-- Whether a written path has to lead to a directory: its last part is empty or a single point. -/
def wantsDirectory (s : Text) : Bool :=
  match (Text.split '/' s).getLast? with
  | some last => last.isEmpty || last = "."
  | none => false

/-- Looks at the file that a written path leads to. The empty path leads nowhere. -/
def look (files : FileTree) (s : Text) : Except FileFault Unit :=
  if s.isEmpty then .error .missing
  else match files.find (Path.ofText s) with
    | .error fault => .error fault
    | .ok .directory => .error .isDirectory
    | .ok (.file _) => if wantsDirectory s then .error .notDirectory else .ok ()

def openFile (files : FileTree) (selector : Text) : Except PathDefect (Except AddressFault Unit) :=
  let name := Text.percentDecode selector
  match (Path.ofText name).defect? with
  | some defect => .error defect
  | none => .ok ((look files name).mapError fun fault => .refused fault name)

def tryOpen (files : FileTree) (address : Text) : Except PathDefect (Except AddressFault Unit) :=
  let whole := withoutTag (Text.strip address)
  let scheme := kind whole
  if scheme = "file" then openFile files (body whole)
  else if scheme = "http" || scheme = "https" then .ok (.error .noHost)
  else if scheme = "ftp" then .ok (.error .noTransferHost)
  else .ok (.error (.unknownKind scheme))

end Address

end CrateGuard
