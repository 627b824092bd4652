import CrateGuard.Text.Basic

/-! Blank characters and trimming. A text is trimmed of the Unicode white space and of the four
ASCII information separators; the zero-width space is not blank. -/

namespace CrateGuard.Text

/-- Tabs, line ends, information separators, the space and the wider Unicode spaces. -/
def isBlank (c : CodePoint) : Bool :=
  let n := c.code
  (9 ≤ n && n ≤ 13) || (28 ≤ n && n ≤ 32) || n == 0x85 || n == 0xA0 || n == 0x1680 ||
    (0x2000 ≤ n && n ≤ 0x200A) || n == 0x2028 || n == 0x2029 || n == 0x202F || n == 0x205F ||
    n == 0x3000

def trimBoth (drop : CodePoint → Bool) (s : Text) : Text :=
  ((s.dropWhile drop).reverse.dropWhile drop).reverse

def trimEndOf (drop : CodePoint → Bool) (s : Text) : Text :=
  (s.reverse.dropWhile drop).reverse

def strip (s : Text) : Text :=
  trimBoth isBlank s

def stripEnd (s : Text) : Text :=
  trimEndOf isBlank s

@[simp] theorem trimEndOf_append_dropped {drop : CodePoint → Bool} (s : Text) {c : CodePoint}
    (h : drop c = true) : trimEndOf drop (s ++ [c]) = trimEndOf drop s := by
  simp [trimEndOf, h]

/-- What is trimmed at the end is a run of code points of the class. -/
theorem trimEndOf_append (drop : CodePoint → Bool) (s : Text) :
    trimEndOf drop s ++ (s.reverse.takeWhile drop).reverse = s := by
  rw [trimEndOf, ← List.reverse_append, List.takeWhile_append_dropWhile, List.reverse_reverse]

end CrateGuard.Text
