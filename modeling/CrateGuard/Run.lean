import CrateGuard.Crash
import CrateGuard.Files.Path
import CrateGuard.Json.Value

/-! Runs and what they leave behind. A run gives a result or crashes, and either way what it
printed, logged, requested and started up to then is kept, in order. -/

namespace CrateGuard

inductive Level
  | debug
  | info
  | warning
  deriving DecidableEq, Repr

inductive Message
  | out (line : Text)
  | err (line : Text)
  | log (level : Level) (source : String) (text : Text)
  deriving DecidableEq, Repr

/-- A question to the registry. The waiting limit is a number of seconds, or null for none. -/
structure Request where
  url : Text
  userAgent : Text
  timeout : Json

structure CommandRun where
  words : List Text
  directory : Path
  timeout : Json

/-- What a run leaves behind. -/
structure Trace where
  messages : List Message
  requests : List Request
  commands : List CommandRun
  /-- The packages whose latest version was asked for. -/
  lookups : List Text

namespace Trace

def empty : Trace := ⟨[], [], [], []⟩

def append (a b : Trace) : Trace :=
  ⟨a.messages ++ b.messages, a.requests ++ b.requests, a.commands ++ b.commands,
    a.lookups ++ b.lookups⟩

instance : Append Trace := ⟨append⟩

end Trace

/-- A result or a crash, and the trace up to it. -/
structure Run (α : Type) where
  result : Except Crash α
  trace : Trace

namespace Run

def pure {α : Type} (a : α) : Run α := ⟨.ok a, Trace.empty⟩

def bind {α β : Type} (first : Run α) (next : α → Run β) : Run β :=
  match first.result with
  | .error crash => ⟨.error crash, first.trace⟩
  | .ok a => ⟨(next a).result, first.trace ++ (next a).trace⟩

instance : Monad Run where
  pure := Run.pure
  bind := Run.bind

def crash {α : Type} (c : Crash) : Run α := ⟨.error c, Trace.empty⟩

def ofExcept {α : Type} (result : Except Crash α) : Run α := ⟨result, Trace.empty⟩

def say (messages : List Message) : Run Unit := ⟨.ok (), ⟨messages, [], [], []⟩⟩

def log (level : Level) (source : String) (text : Text) : Run Unit :=
  say [.log level source text]

def noteRequest (request : Request) : Run Unit := ⟨.ok (), ⟨[], [request], [], []⟩⟩

def noteCommand (command : CommandRun) : Run Unit := ⟨.ok (), ⟨[], [], [command], []⟩⟩

def noteLookup (name : Text) : Run Unit := ⟨.ok (), ⟨[], [], [], [name]⟩⟩

end Run

end CrateGuard
