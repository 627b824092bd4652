import CrateGuard.Files.Tree
import CrateGuard.Run

/-! Acts: runs that may change files. The changes made before a crash stay. -/

namespace CrateGuard

/-- A run that starts from some files and leaves others. -/
def Act (α : Type) : Type := FileTree → FileTree × Run α

namespace Act

def ofRun {α : Type} (run : Run α) : Act α := fun files => (files, run)

def pure {α : Type} (a : α) : Act α := ofRun (Run.pure a)

def bind {α β : Type} (first : Act α) (next : α → Act β) : Act β := fun files =>
  let (between, run) := first files
  match run.result with
  | .error crash => (between, ⟨.error crash, run.trace⟩)
  | .ok a =>
    let (after, rest) := next a between
    (after, ⟨rest.result, run.trace ++ rest.trace⟩)

instance : Monad Act where
  pure := Act.pure
  bind := Act.bind

def reading {α : Type} (run : FileTree → Run α) : Act α := fun files => (files, run files)

def say (messages : List Message) : Act Unit := ofRun (Run.say messages)

end Act

end CrateGuard
