import Mathlib
import CrateGuard.Proofs.Json.Nesting
import CrateGuard.Proofs.Run
import CrateGuard.Proofs.Text.Encoded
import CrateGuard.Source.Evidence

/-! Replays. Evidence read from a file that holds what a command printed is the evidence read from
the command itself, but for the words of a fault. That takes in every text, blank or malformed ones
too, since blank output is no JSON either and line ends make no difference to a value. Only a text
that is nested as deep as the command's reader goes is too deep for the reader of the file, which
takes one call more. -/

namespace CrateGuard

/-- What a run gives: a value, none because of a fault, or a crash. -/
def Run.answer {ε α : Type} (run : Run (Except ε α)) : Except Crash (Option α) :=
  run.result.map Except.toOption

namespace Json

end Json

namespace Source
variable {files : FileTree} {path : Path} {s : Text}

section
variable {reply : List Text → CommandReply} {code : Int} {errors : Text}

end

end Source

end CrateGuard
