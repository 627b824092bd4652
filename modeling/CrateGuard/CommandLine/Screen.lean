import CrateGuard.Text.Basic

/-! Options and screens of the command line. A flag stands alone, a setting takes a value. Each
screen has its own options: the main one and that of each command. -/

namespace CrateGuard.CommandLine

inductive Flag
  | help
  | verbose
  | noFail
  deriving DecidableEq, Repr

namespace Flag

def long : Flag → String
  | .help => "--help"
  | .verbose => "--verbose"
  | .noFail => "--no-fail"

def letter? : Flag → Option Char
  | .help => some 'h'
  | .verbose => some 'v'
  | .noFail => none

def label (flag : Flag) : String :=
  match flag.letter? with
  | some letter => "-" ++ letter.toString ++ "/" ++ flag.long
  | none => flag.long

end Flag

inductive Setting
  | root
  | policy
  | auditJson
  | today
  | watchlist
  | metadataJson
  | registryUrl
  | timeout
  | summaryPath
  | outputDir
  deriving DecidableEq, Repr

def Setting.long : Setting → String
  | .root => "--root"
  | .policy => "--policy"
  | .auditJson => "--audit-json"
  | .today => "--today"
  | .watchlist => "--watchlist"
  | .metadataJson => "--metadata-json"
  | .registryUrl => "--registry-url"
  | .timeout => "--timeout"
  | .summaryPath => "--summary-path"
  | .outputDir => "--output-dir"

inductive Choice
  | flag (flag : Flag)
  | setting (setting : Setting)
  deriving DecidableEq, Repr

def Choice.long : Choice → String
  | .flag f => f.long
  | .setting s => s.long

inductive Command
  | audit
  | watch
  deriving DecidableEq, Repr

namespace Command

def all : List Command := [.audit, .watch]

def name : Command → String
  | .audit => "audit"
  | .watch => "watch"

def ofName? (name : Text) : Option Command :=
  all.find? fun command => Text.ofString command.name == name

end Command

/-- What words are read against: the main options, or those of a command. -/
inductive Screen
  | main
  | command (command : Command)
  deriving DecidableEq, Repr

namespace Screen

def choices : Screen → List Choice
  | .main => [.flag .help, .setting .root, .flag .verbose]
  | .command .audit =>
    [.flag .help, .setting .policy, .setting .auditJson, .setting .today]
  | .command .watch =>
    [.flag .help, .setting .watchlist, .setting .metadataJson, .flag .noFail, .setting .registryUrl,
      .setting .timeout, .setting .summaryPath, .setting .outputDir]

def flagOfLetter? (screen : Screen) (letter : CodePoint) : Option Flag :=
  screen.choices.findSome? fun
    | .flag f => if f.letter?.map CodePoint.char = some letter then some f else none
    | .setting _ => none

def program : Screen → String
  | .main => "dependency-gate"
  | .command c => "dependency-gate " ++ c.name

end Screen

end CrateGuard.CommandLine
