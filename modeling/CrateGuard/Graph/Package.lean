import CrateGuard.Json.Value
import CrateGuard.Source.Fault

/-! The packages of a dependency graph. A package needs a name and a version; its source is null
where the graph gives none. -/

namespace CrateGuard

structure PackageRecord where
  name : Json
  version : Json
  source : Json

namespace PackageRecord

def read (index : Nat) : Json → Except SourceFault PackageRecord
  | .obj fields =>
    let name := Json.field fields "name"
    let version := Json.field fields "version"
    if name.filled && version.filled then .ok ⟨name, version, Json.field fields "source"⟩
    else .error (.incompletePackage index)
  | _ => .error (.incompletePackage index)

def ofGraph : Json → Except SourceFault (List PackageRecord)
  | .obj fields =>
    match Json.field fields "packages" with
    | .arr packages => Json.readEach read 0 packages
    | _ => .error .noPackages
  | _ => .error .graphNotObject

end PackageRecord

end CrateGuard
