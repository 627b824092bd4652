import CrateGuard.Text.Basic

/-! Line ends. A text file is read with every line end turned into a line feed, whether the file
ends its lines with a carriage return, a line feed or both. -/

namespace CrateGuard.Text

/-- Turns each carriage return, and each pair of carriage return and line feed, into a line feed. -/
def unifyNewlines : Text → Text
  | [] => []
  | .char '\r' :: .char '\n' :: rest => .char '\n' :: unifyNewlines rest
  | .char '\r' :: rest => .char '\n' :: unifyNewlines rest
  | c :: rest => c :: unifyNewlines rest

end CrateGuard.Text
