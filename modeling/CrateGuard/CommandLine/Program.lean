import CrateGuard.CommandLine.Help
import CrateGuard.CommandLine.Invocation
import CrateGuard.Gate.Console
import CrateGuard.Gate.Watch

/-! The program: a command line is read and its command is run in the given world. Mistakes of the
command line exit with two, before anything is looked at. -/

namespace CrateGuard.CommandLine

def usageExit : Nat := 2

def pathOr (root : Path) (usualPlace : List Text) (given : Text) : ShownPath :=
  ShownPath.normal (if given.isEmpty then root.below usualPlace else Path.ofText given)

def pathIfGiven (given : Text) : Option Path :=
  if given.isEmpty then none else some (Path.ofText given)

namespace Options

def workspace (options : Options) : Except Crash Path :=
  match options.root with
  | some root => .ok (Path.ofText root)
  | none => .error .noWorkspace

def client (options : Options) : Except Crash RegistryClient :=
  match options.registryUrl with
  | some url => .ok ⟨url, options.timeout, RegistryClient.usualAgent⟩
  | none => .error .noRegistry

def auditSource (options : Options) (root : Path) : Source :=
  match pathIfGiven options.auditJson with
  | some path => .files (some path) none
  | none => Source.ofWorkspace root

def watchSource (options : Options) (root : Path) : Source :=
  match pathIfGiven options.metadataJson with
  | some path => .files none (some path)
  | none => Source.ofWorkspace root

def auditJob (options : Options) (root : Path) (today : Option Date) : AuditJob :=
  ⟨pathOr root Policy.usualPlace options.policy, options.auditSource root, today⟩

def watchJob (options : Options) (root : Path) (client : RegistryClient) : WatchJob :=
  ⟨pathOr root Watchlist.usualPlace options.watchlist, options.watchSource root, client,
    options.noFail, (pathIfGiven options.summaryPath).map ShownPath.normal,
    (pathIfGiven options.outputDir).map ShownPath.normal, none⟩

/-- The day that is asked for, if one is; a text that is no day is a mistake. -/
def day (options : Options) : Except UsageFault (Option Date) :=
  if options.today.isEmpty then .ok none
  else match Date.read? options.today with
    | some date => .ok (some date)
    | none => .error .badToday

def logStyle (options : Options) : LogStyle :=
  .labelled (if options.verbose then .debug else .warning)

end Options

def sourcePaths : Source → List Path
  | .cargo .. => []
  | .files advisories graph => advisories.toList ++ graph.toList

def Invocation.inputPaths (invocation : Invocation) : List Path :=
  let options := invocation.options
  match options.workspace with
  | .error _ => []
  | .ok root =>
    match invocation.command with
    | .audit => (options.auditJob root none).policy.path :: sourcePaths (options.auditSource root)
    | .watch =>
      (pathOr root Watchlist.usualPlace options.watchlist).path ::
        sourcePaths (options.watchSource root)

def Invocation.outputPaths (world : World) (invocation : Invocation) : List Path :=
  let tablePath (directory : Path) : Path :=
    Path.ofText (world.expandHome (directory.below [Artifact.tableName]).text)
  match invocation.command with
  | .audit => []
  | .watch =>
    (pathIfGiven invocation.options.summaryPath).toList ++
      ((pathIfGiven invocation.options.outputDir).map tablePath).toList

def complain (screen : Screen) (fault : UsageFault) : Act Nat := do
  Act.say [.err screen.usage, .err (screen.program ++ ": error: " ++ fault.message)]
  return usageExit

def Options.audit (world : World) (options : Options) (root : Path) : Act Nat :=
  match options.day with
  | .error fault => complain .main fault
  | .ok today => do
    let verdict ← Act.reading fun files => (options.auditJob root today).run world files
    return verdict.exitCode

def Options.watch (world : World) (options : Options) (root : Path) : Act Nat := do
  let client ← Act.ofRun (Run.ofExcept options.client)
  let verdict ← (options.watchJob root client).run world
  return verdict.exitCode

def Invocation.run (world : World) (invocation : Invocation) : Act Nat := do
  let root ← Act.ofRun (Run.ofExcept invocation.options.workspace)
  match invocation.command with
  | .audit => invocation.options.audit world root
  | .watch => invocation.options.watch world root

def run (world : World) (words : List Text) : Act Nat :=
  match Invocation.ofWords (world.summaryVariable.getD []) words with
  | .error (.help screen) => do
    Act.say [.out screen.help]
    return 0
  | .error (.fault screen fault) => complain screen fault
  | .ok invocation => fun files =>
    let (after, ran) := invocation.run world files
    (after, ran.settled invocation.options.logStyle)

end CrateGuard.CommandLine
