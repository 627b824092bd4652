import CrateGuard.Json.Value

/-! Lexemes of JSON texts. A text is cut into brackets, delimiters, texts and plain values, each
placed by the rest of the text that starts with it. What is no lexeme ends the row of lexemes, for
no text that holds it can be read. -/

namespace CrateGuard.Json

inductive Problem
  | byteOrderMark
  | noValue
  | noName
  | noColon
  | noComma
  | extraData
  | openString
  | controlCharacter
  | badEscape
  | badUnicodeEscape
  deriving DecidableEq, Repr

inductive Token
  | openList
  | closeList
  | openObject
  | closeObject
  | comma
  | colon
  | string (s : Text)
  | plain (value : Json)
  | badString (problem : Problem) (rest : Text)
  | longNumeral (digits : Nat)
  | stray
  deriving Inhabited

/-- A lexeme and the rest of the text from its first character on. -/
structure Placed where
  token : Token
  rest : Text

def isGap (c : CodePoint) : Bool :=
  c == ' ' || c == '\t' || c == '\n' || c == '\r'

def hexQuad? (a b c d : CodePoint) : Option Nat := do
  let a ← Text.hexValue? a
  let b ← Text.hexValue? b
  let c ← Text.hexValue? c
  let d ← Text.hexValue? d
  return ((a * 16 + b) * 16 + c) * 16 + d

def isHighSurrogate (n : Nat) : Bool := 0xD800 ≤ n && n ≤ 0xDBFF

def isLowSurrogate (n : Nat) : Bool := 0xDC00 ≤ n && n ≤ 0xDFFF

def pairPoint (high low : Nat) : CodePoint :=
  CodePoint.ofCode (0x10000 + (high - 0xD800) * 0x400 + (low - 0xDC00))

inductive Escaped
  | point (c : CodePoint) (rest : Text)
  | problem (what : Problem) (rest : Text)

/-- The code point of a first half of a pair, given what follows it: an escaped second half is taken
with it if more follows that, and otherwise the first half stands alone. -/
def secondHalf (high : Nat) : Text → Escaped
  | .char '\\' :: .char 'u' :: a :: b :: c :: d :: next :: rest =>
    match hexQuad? a b c d with
    | none => .problem .badUnicodeEscape (.char 'u' :: a :: b :: c :: d :: next :: rest)
    | some low =>
      if isLowSurrogate low then .point (pairPoint high low) (next :: rest)
      else
        .point (CodePoint.ofCode high)
          (.char '\\' :: .char 'u' :: a :: b :: c :: d :: next :: rest)
  | after => .point (CodePoint.ofCode high) after

/-- The code point of a `\u` escape, given the text from its `u` on and after it. At least one
character has to follow the four digits. -/
def unicodeEscape (fromMark : Text) : Text → Escaped
  | a :: b :: c :: d :: next :: rest =>
    match hexQuad? a b c d with
    | none => .problem .badUnicodeEscape fromMark
    | some unit =>
      if isHighSurrogate unit then secondHalf unit (next :: rest)
      else .point (CodePoint.ofCode unit) (next :: rest)
  | _ => .problem .badUnicodeEscape fromMark

/-- The code point of an escape, given the text from its backslash on and after it. -/
def escape (fromQuote fromSlash : Text) : Text → Escaped
  | [] => .problem .openString fromQuote
  | c :: rest =>
    match c with
    | .char '"' => .point '"' rest
    | .char '\\' => .point '\\' rest
    | .char '/' => .point '/' rest
    | .char 'b' => .point '\x08' rest
    | .char 'f' => .point '\x0c' rest
    | .char 'n' => .point '\n' rest
    | .char 'r' => .point '\r' rest
    | .char 't' => .point '\t' rest
    | .char 'u' => unicodeEscape (c :: rest) rest
    | _ => .problem .badEscape fromSlash

theorem secondHalf_length {high : Nat} {s rest : Text} {c : CodePoint}
    (h : secondHalf high s = .point c rest) : rest.length ≤ s.length := by
  unfold secondHalf at h
  split at h
  · split at h
    · cases h
    · split at h <;> simp only [Escaped.point.injEq] at h <;> obtain ⟨_, rfl⟩ := h <;>
        simp only [List.length_cons] <;> omega
  · simp only [Escaped.point.injEq] at h
    obtain ⟨_, rfl⟩ := h
    exact Nat.le_refl _

theorem unicodeEscape_length {mark s rest : Text} {c : CodePoint}
    (h : unicodeEscape mark s = .point c rest) : rest.length < s.length := by
  unfold unicodeEscape at h
  split at h
  · split at h
    · cases h
    · split at h
      · have := secondHalf_length h
        simp only [List.length_cons] at this ⊢
        omega
      · cases h
        simp only [List.length_cons]
        omega
  · cases h

theorem escape_length {quote slash s rest : Text} {c : CodePoint}
    (h : escape quote slash s = .point c rest) : rest.length < s.length := by
  unfold escape at h
  split at h
  · cases h
  · split at h <;> first
      | exact Nat.lt_succ_of_lt (unicodeEscape_length h)
      | (cases h; exact Nat.lt_succ_self _)
      | cases h

inductive StringScan
  | closed (s : Text) (rest : Text)
  | problem (what : Problem) (rest : Text)

/-- Reads a text from after its opening quote; `done` holds the characters read, the last first. -/
def scanString (fromQuote done : Text) : (s : Text) → StringScan
  | [] => .problem .openString fromQuote
  | c :: rest =>
    if c = '"' then .closed done.reverse rest
    else if c = '\\' then
      match _h : escape fromQuote (c :: rest) rest with
      | .point e after => scanString fromQuote (e :: done) after
      | .problem what place => .problem what place
    else if c.code ≤ 0x1f then .problem .controlCharacter (c :: rest)
    else scanString fromQuote (c :: done) rest
  termination_by s => s.length
  decreasing_by
    · have := escape_length _h
      simp only [List.length_cons]
      omega
    · simp

theorem scanString_length {quote done s text rest : Text}
    (h : scanString quote done s = .closed text rest) : rest.length < s.length := by
  fun_induction scanString quote done s with
  | case1 => cases h
  | case2 => cases h; simp
  | case3 done tail _ e after he ih =>
    have h1 := ih h
    have h2 := escape_length he
    simp only [List.length_cons]
    omega
  | case4 => cases h
  | case5 => cases h
  | case6 done c tail _ _ _ ih =>
    have h1 := ih h
    simp only [List.length_cons]
    omega

def takeDigits (s : Text) : Text × Text :=
  (s.takeWhile Text.isAsciiDigit, s.dropWhile Text.isAsciiDigit)

def takeWhole : Text → Text × Text
  | .char '0' :: rest => ([.char '0'], rest)
  | s => takeDigits s

def takeFraction (s : Text) : Text × Text :=
  match s with
  | .char '.' :: rest =>
    let (digits, after) := takeDigits rest
    if digits.isEmpty then ([], s) else (digits, after)
  | _ => ([], s)

def takeExponent (s : Text) : Option Int × Text :=
  match s with
  | c :: rest =>
    if c = 'e' || c = 'E' then
      let (negative, body) := Text.takeSign rest
      let (digits, after) := takeDigits body
      if digits.isEmpty then (none, s)
      else (some (Text.signed negative (Text.asciiValue digits)), after)
    else (none, s)
  | [] => (none, s)

def numberBody : Text → Bool × Text
  | .char '-' :: rest => (true, rest)
  | s => (false, s)

/-- The number at the start of a text. One with neither fraction nor exponent is whole. -/
def takeNumber (s : Text) : Option (Token × Text) :=
  let negative := (numberBody s).1
  let (whole, afterWhole) := takeWhole (numberBody s).2
  if whole.isEmpty then none
  else
    let (fraction, afterFraction) := takeFraction afterWhole
    let (exponent, rest) := takeExponent afterFraction
    if fraction.isEmpty && exponent.isNone then
      if Text.digitLimit < whole.length then some (.longNumeral whole.length, rest)
      else some (.plain (.int (Text.signed negative (Text.asciiValue whole))), rest)
    else
      let power := exponent.getD 0 - fraction.length
      let digits := Text.asciiValue (whole ++ fraction)
      some (.plain (.float (Binary64.ofDecimal negative digits power)), rest)

private theorem dropWhile_length_le (p : CodePoint → Bool) (s : Text) :
    (s.dropWhile p).length ≤ s.length :=
  (List.dropWhile_sublist p).length_le

private theorem takeWhole_length {s : Text} (h : (takeWhole s).1.isEmpty = false) :
    (takeWhole s).2.length < s.length := by
  unfold takeWhole at h ⊢
  split
  · simp
  · next rest _ =>
    simp only [takeDigits] at h ⊢
    cases s with
    | nil => simp at h
    | cons c tail =>
      by_cases hc : Text.isAsciiDigit c = true
      · have := dropWhile_length_le Text.isAsciiDigit tail
        simp [hc]
        omega
      · simp_all

private theorem takeFraction_length (s : Text) : (takeFraction s).2.length ≤ s.length := by
  unfold takeFraction
  split
  · next rest =>
    have := dropWhile_length_le Text.isAsciiDigit rest
    by_cases hd : (rest.takeWhile Text.isAsciiDigit).isEmpty = true
    · simp only [takeDigits, hd, if_true]
      exact Nat.le_refl _
    · simp only [takeDigits, hd]
      simp only [Bool.false_eq_true, if_false, List.length_cons]
      omega
  · exact Nat.le_refl _

private theorem takeSign_length (s : Text) : (Text.takeSign s).2.length ≤ s.length := by
  unfold Text.takeSign
  split <;> simp

private theorem takeExponent_length (s : Text) : (takeExponent s).2.length ≤ s.length := by
  unfold takeExponent
  split
  · next c rest =>
    split
    · have h1 := dropWhile_length_le Text.isAsciiDigit (Text.takeSign rest).2
      have h2 := takeSign_length rest
      by_cases hd : ((Text.takeSign rest).2.takeWhile Text.isAsciiDigit).isEmpty = true
      · simp only [takeDigits, hd, if_true]
        exact Nat.le_refl _
      · simp only [takeDigits, hd]
        simp only [Bool.false_eq_true, if_false, List.length_cons]
        omega
    · exact Nat.le_refl _
  · exact Nat.le_refl _

private theorem numberBody_length (s : Text) : (numberBody s).2.length ≤ s.length := by
  unfold numberBody
  split <;> simp

theorem takeNumber_length {s rest : Text} {token : Token}
    (h : takeNumber s = some (token, rest)) : rest.length < s.length := by
  unfold takeNumber at h
  simp only at h
  split at h
  · cases h
  · next hw =>
    have h1 := takeWhole_length (by simpa using hw)
    have h2 := numberBody_length s
    have h3 := takeFraction_length (takeWhole (numberBody s).2).2
    have h4 := takeExponent_length (takeFraction (takeWhole (numberBody s).2).2).2
    split at h
    · split at h <;> (simp only [Option.some.injEq, Prod.mk.injEq] at h; rw [← h.2]; omega)
    · simp only [Option.some.injEq, Prod.mk.injEq] at h
      rw [← h.2]
      omega

def words : List (Text × Json) := [
  ("null", .null), ("true", .bool true), ("false", .bool false), ("NaN", .float .nan),
  ("Infinity", .float (.infinite false)), ("-Infinity", .float (.infinite true))]

def takeWord (s : Text) : Option (Token × Text) :=
  (words.find? fun word => word.1.isPrefixOf s).map fun word =>
    (.plain word.2, s.drop word.1.length)

/-- The lexeme that starts with a character other than a gap, and the rest after it. Nothing is
left after what is no lexeme. -/
def takeLexeme (c : CodePoint) (rest : Text) : Token × Text :=
  match c with
  | .char '[' => (.openList, rest)
  | .char ']' => (.closeList, rest)
  | .char '\x7b' => (.openObject, rest)
  | .char '\x7d' => (.closeObject, rest)
  | .char ',' => (.comma, rest)
  | .char ':' => (.colon, rest)
  | .char '"' =>
    match scanString (c :: rest) [] rest with
    | .closed s after => (.string s, after)
    | .problem what place => (.badString what place, [])
  | _ =>
    match takeWord (c :: rest) with
    | some found => found
    | none => (takeNumber (c :: rest)).getD (.stray, [])

private theorem takeWord_length {s rest : Text} {token : Token} (hs : s ≠ [])
    (h : takeWord s = some (token, rest)) : rest.length < s.length := by
  unfold takeWord at h
  obtain ⟨word, hw, he⟩ := Option.map_eq_some_iff.1 h
  simp only [Prod.mk.injEq] at he
  have hm : word ∈ words := List.mem_of_find?_eq_some hw
  have hpos : 0 < word.1.length := by
    simp only [words, List.mem_cons, List.not_mem_nil, or_false] at hm
    rcases hm with rfl | rfl | rfl | rfl | rfl | rfl <;> decide
  have hlen : 0 < s.length := List.length_pos_iff.2 hs
  rw [← he.2, List.length_drop]
  omega

theorem takeLexeme_length (c : CodePoint) (rest : Text) :
    (takeLexeme c rest).2.length < (c :: rest).length := by
  rw [List.length_cons, Nat.lt_add_one_iff]
  unfold takeLexeme
  split <;> try exact Nat.le_refl _
  · split
    · next h => exact Nat.le_of_lt (scanString_length h)
    · exact Nat.zero_le _
  · split
    · next found h =>
      exact Nat.le_of_lt_succ (takeWord_length (List.cons_ne_nil _ _) h)
    · cases h : takeNumber (c :: rest) with
      | none => exact Nat.zero_le _
      | some found =>
        obtain ⟨token, after⟩ := found
        exact Nat.le_of_lt_succ (takeNumber_length h)

def lexemes : Text → List Placed
  | [] => []
  | c :: rest =>
    if isGap c then lexemes rest
    else ⟨(takeLexeme c rest).1, c :: rest⟩ :: lexemes (takeLexeme c rest).2
  termination_by s => s.length
  decreasing_by
    · simp
    · exact takeLexeme_length c rest

end CrateGuard.Json
