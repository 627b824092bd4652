import CrateGuard.Version.Runs

/-! The highest of a row of versions and the row in order of precedence. Of versions of equal
precedence the first one is the highest, and sorting keeps their order. -/

namespace CrateGuard.Version

/-- The higher of the best version so far and a candidate; a refused candidate is passed over. -/
def better (best : Option (Text × Version)) (candidate : Text) :
    Except VersionFault (Option (Text × Version)) := do
  match ← tryParse candidate with
  | none => return best
  | some parsed =>
    match best with
    | none => return some (candidate, parsed)
    | some (_, leader) =>
      return if (← parsed.order leader) = .gt then some (candidate, parsed) else best

def highest (candidates : List Text) : Except VersionFault (Option Text) := do
  return (← candidates.foldlM better none).map (·.1)

def textsOf (values : List Json) : List Text :=
  values.filterMap fun
    | .str s => some s
    | _ => none

/-- A row of version texts from the lowest to the highest. A text on its own is not read. -/
def sort (texts : List Text) : Except VersionFault (List Text) := do
  if texts.length < 2 then return texts
  let keys ← readRuns (leastRun texts.length) none texts
  return ((texts.zip keys).mergeSort fun a b => (a.2.order b.2).isLE).map (·.1)

end CrateGuard.Version
