import CrateGuard.Graph.Package
import CrateGuard.Json.Display
import CrateGuard.Run

/-! The resolved versions of each package that comes from the registry. A package without a source
counts as one from the registry; packages from paths and repositories have no latest release. -/

namespace CrateGuard

/-- The set of versions of each name, in the order of the first mention. -/
abbrev Resolved := List (Json × List Json)

namespace Resolved

def logSource : String := "dependency_gate.watcher"

def registryMark : String := "registry+"

def isRegistrySource (source : Json) : Except Crash Bool :=
  if !source.filled then .ok true
  else match source with
    | .str s => .ok ((Text.ofString registryMark).isPrefixOf s)
    | _ => .error .sourceNotText

def addVersion (versions : List Json) (version : Json) : List Json :=
  if versions.any version.same then versions else versions ++ [version]

def add (name version : Json) : Resolved → Resolved
  | [] => [(name, [version])]
  | known :: rest =>
    if known.1.same name then (known.1, addVersion known.2 version) :: rest
    else known :: add name version rest

def addPackage (resolved : Resolved) (package : PackageRecord) : Run Resolved := do
  if ← Run.ofExcept (isRegistrySource package.source) then
    if package.name.hashable && package.version.hashable then
      return add package.name package.version resolved
    else Run.crash .unhashable
  else
    Run.log .debug logSource
      ("Skipping " ++ package.name.text ++ " " ++ package.version.text ++ " from " ++
        package.source.text)
    return resolved

def ofPackages (packages : List PackageRecord) : Run Resolved :=
  packages.foldlM addPackage []

def versions (resolved : Resolved) (name : Text) : List Json :=
  ((resolved.find? fun known => known.1.same (.str name)).map (·.2)).getD []

end Resolved

end CrateGuard
