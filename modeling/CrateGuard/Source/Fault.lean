import CrateGuard.Files.Tree
import CrateGuard.Json.Reader

/-! What can be wrong with evidence: the scan output and the dependency graph, whether they come
from a command or from a file. -/

namespace CrateGuard

inductive SourceFault
  | reportNotObject
  | fieldNotObject (label : String)
  | fieldNotList (label : String)
  | graphNotObject
  | noPackages
  | incompletePackage (index : Nat)
  | noFile (what : String)
  | unreadableFile (what : String) (error : FileError)
  | notJson (origin : Text) (problem : Json.Problem) (position : Json.Position)
  | noCommand (program : Text)
  | commandFailed (command reason : Text)

def SourceFault.message : SourceFault → Text
  | .reportNotObject => "audit report must be a JSON object"
  | .fieldNotObject label => s!"audit report field {label} must be an object"
  | .fieldNotList label => s!"audit report field {label} must be a list"
  | .graphNotObject => "dependency graph must be a JSON object"
  | .noPackages => "dependency graph is missing the packages list"
  | .incompletePackage index => s!"dependency graph packages[{index}] lacks name/version"
  | .noFile what => s!"no {what} file configured"
  | .unreadableFile what error =>
    "cannot read " ++ what ++ " file " ++ error.path.text ++ " (" ++ error.message ++ ")"
  | .notJson origin problem position =>
    origin ++ " produced unparsable output (" ++
      (Json.ReadFault.malformed problem position).message ++ ")"
  | .noCommand program => "required command " ++ Text.quoted program ++ " is unavailable"
  | .commandFailed command reason => "failed to execute " ++ command ++ " (" ++ reason ++ ")"

end CrateGuard
