import CrateGuard.CommandLine.Word

/-! The events that a row of words stands for, in order, up to the first word at which something is
wrong. On the main screen the first plain word is a command, which takes all words after it. Two
hyphens alone as an attached value are no value: they clear the setting. -/

namespace CrateGuard.CommandLine

inductive Event
  | raise (flag : Flag)
  | set (setting : Setting) (value : Text)
  | clear (setting : Setting)
  | leftOver (word : Text)
  | command (name : Text) (arguments : List Text)
  deriving DecidableEq, Repr

namespace Event

/-- The events of a flag with letters after it, all of which have to be flags. -/
def ofLetters (screen : Screen) (flag : Flag) : Text → Except UsageFault (List Event)
  | [] => .ok [.raise flag]
  | letter :: rest =>
    match screen.flagOfLetter? letter with
    | none => .error (.ignoredValue flag (letter :: rest))
    | some next => (ofLetters screen next rest).map (.raise flag :: ·)

def ofFlag (screen : Screen) (flag : Flag) : Attached → Except UsageFault (List Event)
  | .nothing => .ok [.raise flag]
  | .value text => .error (.ignoredValue flag text)
  | .letters text => ofLetters screen flag text

def ofAttached (setting : Setting) (value : Text) : Event :=
  if value = "--" then .clear setting else .set setting value

def wordsOf (words : List (Text × Word)) : List Text :=
  words.map (·.1)

def scan (screen : Screen) : List (Text × Word) → List Event × Option UsageFault
  | [] => ([], none)
  | (word, .plain) :: rest =>
    if screen = .main then ([.command word (wordsOf rest)], none)
    else
      let (events, fault) := scan screen rest
      (.leftOver word :: events, fault)
  | (word, .separator) :: rest =>
    if screen = .main && !rest.isEmpty then ([.command word (wordsOf rest)], none)
    else
      let (events, fault) := scan screen rest
      (.leftOver word :: events, fault)
  | (word, .unknown) :: rest =>
    let (events, fault) := scan screen rest
    (.leftOver word :: events, fault)
  | (_, .flag flag attached) :: rest =>
    match ofFlag screen flag attached with
    | .error fault => ([], some fault)
    | .ok raised =>
      let (events, fault) := scan screen rest
      (raised ++ events, fault)
  | (_, .setting setting (some value)) :: rest =>
    let (events, fault) := scan screen rest
    (ofAttached setting value :: events, fault)
  | (_, .setting setting none) :: (value, .plain) :: rest =>
    let (events, fault) := scan screen rest
    (.set setting value :: events, fault)
  | (_, .setting setting none) :: _ => ([], some (.missingValue setting))

end Event

end CrateGuard.CommandLine
