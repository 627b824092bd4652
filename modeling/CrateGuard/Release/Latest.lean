import CrateGuard.Json.Display
import CrateGuard.Json.Reader
import CrateGuard.Release.Client

/-! The latest release of a package in a registry: of the version fields in the answer, in order of
preference, the first one that is filled. -/

namespace CrateGuard

inductive ReleaseFault
  /-- The registry could not be asked, or its answer is an error or not JSON. -/
  | requestFailed (reason : Text)
  /-- The answer cannot be read for another reason. -/
  | unreadable (reason : Text)
  /-- No version field of the answer is filled. -/
  | noVersion
  /-- A failure of another kind. -/
  | other (failure : Failure)

namespace ReleaseFault

def message : ReleaseFault → Text
  | .requestFailed reason => "crates.io request failed (" ++ reason ++ ")"
  | .unreadable reason => "crates.io returned invalid JSON (" ++ reason ++ ")"
  | .noVersion => "latest version missing from crates.io response"
  | .other failure => failure.text

/-- The fault that a failure to get an answer is. A text without a UTF-8 form is a value that cannot
be used, as are those that cannot be read. -/
def ofFailure (failure : Failure) : ReleaseFault :=
  match failure.kind with
  | .transport _ => .requestFailed failure.text
  | .value | .encoding => .unreadable failure.text
  | .key | .nesting | .other _ => .other failure

def ofReadFault (fault : Json.ReadFault) : ReleaseFault :=
  match fault with
  | .malformed .. => .requestFailed fault.message
  | .longNumeral _ => .unreadable fault.message
  | .tooDeep _ => .other ⟨.nesting, fault.message⟩

def encodingMessage (halves : Unencodable) : Text :=
  let last := halves.position + halves.count - 1
  "'utf-8' codec can't encode character" ++
    (if halves.count = 1 then
      " '" ++ Text.numberedEscape (.ofCode halves.code) ++ s!"' in position {halves.position}"
    else Text.ofString s!"s in position {halves.position}-{last}") ++
    ": surrogates not allowed"

def ofName (name : Text) : ReleaseFault :=
  .other ⟨.encoding, ((Text.unencodable? name).map encodingMessage).getD []⟩

end ReleaseFault

structure LatestRelease where
  version : Text
  givenBy : Text
  deriving DecidableEq, Repr

namespace LatestRelease

/-- The version fields in order of preference: stable releases before others. -/
def versionFields : List Text := ["max_stable_version", "max_version", "newest_version"]

/-- Only the client and the server errors are refusals. -/
def isRefused (status : Int) : Bool :=
  400 ≤ status && status < 600

def ofCrate (fields : Json.Fields) : Option LatestRelease :=
  (versionFields.find? fun name => (Json.field fields name).filled).map fun name =>
    ⟨(Json.field fields name).text, name⟩

def ofJson : Json → Option LatestRelease
  | .obj fields =>
    match Json.field fields "crate" with
    | .obj crate => ofCrate crate
    | _ => none
  | _ => none

/-- The deepest nesting that is read from the body of a reply, five calls away. -/
def bodyLimit : Nat := Json.levelsWithin 5

def ofBody (body : Text) : Except ReleaseFault LatestRelease :=
  match Json.read bodyLimit body with
  | .error fault => .error (.ofReadFault fault)
  | .ok value =>
    match ofJson value with
    | some release => .ok release
    | none => .error .noVersion

def ofReply : RegistryReply → Except ReleaseFault LatestRelease
  | .failed failure => .error (.ofFailure failure)
  | .answered status body =>
    if isRefused status then .error (.requestFailed (toString status : String)) else ofBody body

def logSource : String := "dependency_gate.registry"

/-- Asks the registry for the latest release of a package. A name without a UTF-8 form has no
address to ask at. -/
def fetch (registry : Registry) (client : RegistryClient) (name : Text) :
    Run (Except ReleaseFault Text) :=
  match client.request? name with
  | none => return .error (.ofName name)
  | some request => do
    Run.log .info logSource ("Fetching latest version for " ++ name)
    Run.noteRequest request
    match ofReply (registry request) with
    | .error fault => return .error fault
    | .ok release =>
      Run.log .debug logSource
        (name ++ " latest=" ++ release.version ++ " (from " ++ release.givenBy ++ ")")
      return .ok release.version

end LatestRelease

def Lookup.ofFetched : Except ReleaseFault Text → Lookup
  | .ok version => .found (.str version)
  | .error (.other failure) => .broken failure
  | .error fault => .refused fault.message

end CrateGuard
