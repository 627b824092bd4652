import CrateGuard.CommandLine.Event
import CrateGuard.Decimal.Reading
import CrateGuard.Release.Client

/-! What a command line asks for. Events count in order, so that help asked for before a mistake is
shown, and of two values for a setting the last one counts. A setting that is cleared has no value,
which the workspace and the address of the registry cannot do without. Words that are left over are
a mistake of the whole line, found out last. -/

namespace CrateGuard.CommandLine

structure Options where
  root : Option Text
  verbose : Bool
  policy : Text
  auditJson : Text
  today : Text
  watchlist : Text
  metadataJson : Text
  noFail : Bool
  registryUrl : Option Text
  timeout : Json
  summaryPath : Text
  outputDir : Text

namespace Options

def usual (summaryPath : Text) : Options :=
  ⟨some ".", false, "", "", "", "", "", false, some RegistryClient.usualUrl,
    RegistryClient.usualTimeout, summaryPath, ""⟩

def raise (options : Options) : Flag → Options
  | .help => options
  | .verbose => { options with verbose := true }
  | .noFail => { options with noFail := true }

def set (options : Options) (value : Text) : Setting → Except UsageFault Options
  | .root => .ok { options with root := some value }
  | .policy => .ok { options with policy := value }
  | .auditJson => .ok { options with auditJson := value }
  | .today => .ok { options with today := value }
  | .watchlist => .ok { options with watchlist := value }
  | .metadataJson => .ok { options with metadataJson := value }
  | .registryUrl => .ok { options with registryUrl := some value }
  | .timeout =>
    match Binary64.read? value with
    | some seconds => .ok { options with timeout := .float seconds }
    | none => .error (.notNumber .timeout value)
  | .summaryPath => .ok { options with summaryPath := value }
  | .outputDir => .ok { options with outputDir := value }

/-- The values with one of them cleared. The waiting limit is then an empty list. -/
def clear (options : Options) : Setting → Options
  | .root => { options with root := none }
  | .policy => { options with policy := "" }
  | .auditJson => { options with auditJson := "" }
  | .today => { options with today := "" }
  | .watchlist => { options with watchlist := "" }
  | .metadataJson => { options with metadataJson := "" }
  | .registryUrl => { options with registryUrl := none }
  | .timeout => { options with timeout := .arr [] }
  | .summaryPath => { options with summaryPath := "" }
  | .outputDir => { options with outputDir := "" }

end Options

/-- Why nothing is run: the help of a screen is asked for, or something is wrong there. -/
inductive Halt
  | help (screen : Screen)
  | fault (screen : Screen) (fault : UsageFault)

structure Progress where
  options : Options
  leftOver : List Text
  command : Option (Text × List Text)

def Progress.step (screen : Screen) (progress : Progress) : Event → Except Halt Progress
  | .raise .help => .error (.help screen)
  | .raise flag => .ok { progress with options := progress.options.raise flag }
  | .set setting value =>
    match progress.options.set value setting with
    | .ok options => .ok { progress with options }
    | .error fault => .error (.fault screen fault)
  | .clear setting => .ok { progress with options := progress.options.clear setting }
  | .leftOver word => .ok { progress with leftOver := progress.leftOver ++ [word] }
  | .command name arguments => .ok { progress with command := some (name, arguments) }

def Progress.read (screen : Screen) (progress : Progress) (words : List Text) :
    Except Halt Progress := do
  let kinds ← (Word.classifyAll screen words).mapError (Halt.fault screen)
  let (events, fault) := Event.scan screen kinds
  let progress ← events.foldlM (Progress.step screen) progress
  match fault with
  | none => return progress
  | some fault => throw (.fault screen fault)

structure Invocation where
  command : Command
  options : Options

def Invocation.ofWords (summaryPath : Text) (words : List Text) : Except Halt Invocation := do
  let outer ← Progress.read .main ⟨Options.usual summaryPath, [], none⟩ words
  match outer.command with
  | none => throw (.fault .main .noCommand)
  | some (name, arguments) =>
    match Command.ofName? name with
    | none => throw (.fault .main (.unknownCommand name))
    | some command =>
      let inner ← Progress.read (.command command) outer arguments
      if inner.leftOver.isEmpty then return ⟨command, inner.options⟩
      else throw (.fault .main (.unrecognized inner.leftOver))

end CrateGuard.CommandLine
