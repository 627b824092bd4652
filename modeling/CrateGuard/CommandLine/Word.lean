import CrateGuard.CommandLine.Fault
import CrateGuard.Text.Digit

/-! The kinds of words on a command line. An option is given by its long name, by the beginning of
it if no other one begins so, or by its short name; a value may follow a long name after an equals
sign, and the letters of more flags may follow a short name, with or without such a sign. A word
with a hyphen in front that is no option is still plain if it looks like a negative number or holds
a space. -/

namespace CrateGuard.CommandLine

inductive Attached
  | nothing
  /-- A value, which no flag takes. -/
  | value (text : Text)
  /-- What follows a short name. -/
  | letters (text : Text)
  deriving DecidableEq, Repr

inductive Word
  | plain
  | separator
  | unknown
  | flag (flag : Flag) (attached : Attached)
  | setting (setting : Setting) (value : Option Text)
  deriving DecidableEq, Repr

namespace Word

def splitAtEquals (s : Text) : Text × Option Text :=
  match s.dropWhile (· != CodePoint.char '=') with
  | [] => (s, none)
  | _ :: value => (s.takeWhile (· != CodePoint.char '='), some value)

def ofChoice (value : Option Text) : Choice → Word
  | .setting s => .setting s value
  | .flag f =>
    match value with
    | none => .flag f .nothing
    | some text => .flag f (.value text)

def ofLong? (screen : Screen) (name : Text) : Option Choice :=
  screen.choices.find? fun choice => Text.ofString choice.long == name

def beginning (screen : Screen) (name : Text) : List Choice :=
  screen.choices.filter fun choice => name.isPrefixOf (Text.ofString choice.long)

/-- What is attached to a flag by what follows its short name. An equals sign is passed over, unless
nothing comes after it. -/
def afterLetter : Text → Attached
  | [] => .nothing
  | [.char '='] => .value []
  | .char '=' :: text => .letters text
  | text => .letters text

/-- A minus sign, and digits of any script with at most one point among or before them. A line feed
may follow. -/
def isNegativeNumber : Text → Bool
  | .char '-' :: body =>
    let number := if body.getLast? = some (.char '\n') then body.dropLast else body
    let rest := number.dropWhile Text.isDecimal
    match rest with
    | [] => !number.isEmpty
    | .char '.' :: fraction => !fraction.isEmpty && fraction.all Text.isDecimal
    | _ => false
  | _ => false

def otherwise (s : Text) : Word :=
  if isNegativeNumber s || s.contains (.char ' ') then .plain else .unknown

def classifyLong (screen : Screen) (word : Text) : Except UsageFault Word :=
  let (name, value) := splitAtEquals word
  match ofLong? screen name with
  | some choice => .ok (ofChoice value choice)
  | none =>
    match beginning screen name with
    | [] => .ok (otherwise word)
    | [choice] => .ok (ofChoice value choice)
    | candidates => .error (.ambiguous word candidates)

def classify (screen : Screen) (word : Text) : Except UsageFault Word :=
  match word with
  | .char '-' :: .char '-' :: _ => classifyLong screen word
  | .char '-' :: letter :: rest =>
    match screen.flagOfLetter? letter with
    | some raised => .ok (.flag raised (afterLetter rest))
    | none => .ok (otherwise (.char '-' :: letter :: rest))
  | _ => .ok .plain

/-- The kinds of all words. After the separator, two hyphens alone, every word is plain. -/
def classifyAll (screen : Screen) : List Text → Except UsageFault (List (Text × Word))
  | [] => .ok []
  | word :: rest =>
    if word = "--" then .ok ((word, .separator) :: rest.map fun later => (later, .plain))
    else do
      let kind ← classify screen word
      let kinds ← classifyAll screen rest
      return (word, kind) :: kinds

end Word

end CrateGuard.CommandLine
