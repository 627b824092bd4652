import CrateGuard.Run

/-! What a run shows. Log records go to the error stream, in order with the other lines there; which
of them are shown, and how, is a matter of style. -/

namespace CrateGuard

namespace Level

def name : Level → String
  | .debug => "DEBUG"
  | .info => "INFO"
  | .warning => "WARNING"

def rank : Level → Nat
  | .debug => 0
  | .info => 1
  | .warning => 2

end Level

/-- How log records are shown: warnings alone and without a label, or all from a level on with the
name of the level and of the logging part. -/
inductive LogStyle
  | bare
  | labelled (lowest : Level)
  deriving DecidableEq, Repr

def LogStyle.line? (level : Level) (source : String) (text : Text) : LogStyle → Option Text
  | .bare => if level = .warning then some text else none
  | .labelled lowest =>
    if lowest.rank ≤ level.rank then some (level.name ++ " " ++ source ++ ": " ++ text) else none

namespace Message

def outLine? : Message → Option Text
  | .out line => some line
  | _ => none

def errLine? (style : LogStyle) : Message → Option Text
  | .out _ => none
  | .err line => some line
  | .log level source text => style.line? level source text

/-- The message with log records turned into the lines that they show. -/
def settled? (style : LogStyle) : Message → Option Message
  | .log level source text => (style.line? level source text).map .err
  | message => some message

end Message

def textOfLines (lines : List Text) : Text :=
  lines.flatMap (· ++ "\n")

namespace Trace

def outText (trace : Trace) : Text :=
  textOfLines (trace.messages.filterMap Message.outLine?)

def errText (style : LogStyle) (trace : Trace) : Text :=
  textOfLines (trace.messages.filterMap (Message.errLine? style))

def settled (style : LogStyle) (trace : Trace) : Trace :=
  ⟨trace.messages.filterMap (Message.settled? style), trace.requests, trace.commands,
    trace.lookups⟩

end Trace

def Run.settled {α : Type} (style : LogStyle) (run : Run α) : Run α :=
  ⟨run.result, run.trace.settled style⟩

end CrateGuard
