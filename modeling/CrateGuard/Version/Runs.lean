import CrateGuard.Version.Precedence

/-! Reading a row of versions run by run, as sorting does, so that the first text in that order that
cannot be read is the one at fault. -/

namespace CrateGuard.Version

def key (s : Text) : Except VersionFault CanonicalVersion :=
  parse s >>= canonical

/-- The length below which a run is filled up, in a row of the given length: all of a short row, and
else its length in units of the power of two that leaves six binary digits, rounded up. -/
def leastRun (length : Nat) : Nat :=
  let unit := 1 <<< (length.log2 - 5)
  (length + unit - 1) / unit

/-- The keys of the texts that carry on a run after the given key: a falling run as long as each key
is lower than the one before it, a rising run as long as none is. The key that ends the run, if
there is one, comes second. -/
def readRun (falling : Bool) (last : CanonicalVersion) :
    List Text → Except VersionFault (List CanonicalVersion × Option CanonicalVersion)
  | [] => return ([], none)
  | next :: rest => do
    let nextKey ← key next
    if (nextKey.order last == .lt) == falling then
      let (run, ending) ← readRun falling nextKey rest
      return (nextKey :: run, ending)
    else return ([], some nextKey)

def keyUnless (known : Option CanonicalVersion) (s : Text) : Except VersionFault CanonicalVersion :=
  match known with
  | some k => .ok k
  | none => key s

/-- The keys of a row in the order of its texts, the first of which may be known. They are read run
by run, the second text of a run before the first. A run that is too short is filled up with the
texts after it. -/
def readRuns (least : Nat) (known : Option CanonicalVersion) :
    List Text → Except VersionFault (List CanonicalVersion)
  | [] => return []
  | [last] => return [← keyUnless known last]
  | first :: second :: rest => do
    let secondKey ← key second
    let firstKey ← keyUnless known first
    let (run, ending) ← readRun (secondKey.order firstKey == .lt) secondKey rest
    let missing := least - (run.length + 2)
    if missing = 0 then
      let later ← readRuns least ending (rest.drop run.length)
      return firstKey :: secondKey :: run ++ later
    else
      let unread := rest.drop (run.length + ending.toList.length)
      let filling ← (unread.take (missing - ending.toList.length)).mapM key
      let later ← readRuns least none (rest.drop (run.length + missing))
      return firstKey :: secondKey :: run ++ ending.toList ++ filling ++ later
  termination_by texts => texts.length
  decreasing_by
    all_goals
      simp only [List.length_cons, List.length_drop]
      omega

end CrateGuard.Version
