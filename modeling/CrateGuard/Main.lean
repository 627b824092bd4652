import CrateGuard.CommandLine.Program
import Std.Time.DateTime.Timestamp

/-! The executable. It reads the files that a command line names, runs it, writes the files that
have changed and prints. There is no way to the registry and no cargo here: evidence comes from
files, and lookups fail. -/

namespace CrateGuard.Main

open CommandLine

def unreachable : Registry := fun _ =>
  .failed ⟨.transport "ConnectionError", "the registry cannot be reached from here"⟩

def now : IO Moment := do
  let time ← Std.Time.Timestamp.now
  return (Moment.ofMicroseconds? (time.toNanosecondsSinceUnixEpoch.toInt / 1000)).getD default

def onDisk (path : Path) : IO (Option Entry) := do
  try
    return some (.file (← IO.FS.readBinFile path.text.shown))
  catch
    | .inappropriateType .. => return some .directory
    | _ => return none

def addFromDisk (files : FileTree) (path : Path) : IO FileTree := do
  match files.locate path, ← onDisk path with
  | .ok place, some entry => return files.put place entry
  | _, _ => return files

def addWithParents (files : FileTree) (path : Path) : IO FileTree :=
  if path.defect?.isSome then return files
  else ((List.range path.parts.length).map fun n =>
    Path.mk path.root (path.parts.take (n + 1))).foldlM addFromDisk files

def store (before after : FileTree) (path : Path) : IO Unit := do
  match after.entry? path with
  | some (.file bytes) =>
    if before.entry? path ≠ after.entry? path then
      IO.FS.createDirAll path.parent.text.shown
      IO.FS.writeBinFile path.text.shown bytes
  | _ => return ()

def crashText : Crash → String
  | .undecodable => "a file is not UTF-8"
  | .unencodable => "a text that is to be written or names a file has no UTF-8 form"
  | .unreadableNumeral => "a numeral cannot be read"
  | .tooDeep => "a JSON text is nested too deep"
  | .unhashable => "a list or an object stands in the place of a name"
  | .versionNotText => "a resolved version is not a text"
  | .sourceNotText => "the source of a package is not a text"
  | .outsideCalendar => "the time is outside the calendar"
  | .nulInPath => "a path holds a NUL character"
  | .pathTooDeep => "too many directories are missing on a path"
  | .malformedAuthority => "a path reads as an address of a malformed host"
  | .pathTooLong => "the path of a settings file is too long"
  | .noWorkspace => "no workspace is given"
  | .noRegistry => "no registry is given"

def world : IO World := do
  let summaryVariable ← IO.getEnv "GITHUB_STEP_SUMMARY"
  let home ← IO.getEnv "HOME"
  return ⟨← now, unreachable, none, summaryVariable.map Text.ofString,
    fun user => if user.isEmpty then home.map Text.ofString else none, fun _ => false⟩

def execute (words : List Text) : IO UInt32 := do
  let world ← world
  let (inputs, outputs) := match Invocation.ofWords (world.summaryVariable.getD []) words with
    | .ok invocation => (invocation.inputPaths, invocation.outputPaths world)
    | .error _ => ([], [])
  let before ← (inputs ++ outputs).foldlM addWithParents FileTree.empty
  let (after, ran) := CommandLine.run world words before
  outputs.forM (store before after)
  IO.print ran.trace.outText.shown
  IO.eprint (ran.trace.errText .bare).shown
  match ran.result with
  | .ok code => return UInt32.ofNat code
  | .error crash =>
    IO.eprintln ("dependency-gate: " ++ crashText crash)
    return 1

end CrateGuard.Main

def main (words : List String) : IO UInt32 :=
  CrateGuard.Main.execute (words.map CrateGuard.Text.ofString)
