import Mathlib.Data.List.Find
import Mathlib.Tactic.SplitIfs
import CrateGuard.Json.Reader
import CrateGuard.Proofs.Except
import CrateGuard.Proofs.Text.Newline
import CrateGuard.Settings.Reading

/-! Line ends in JSON texts. Where a line end stands between lexemes it is a gap, however it is
written, and anywhere else it makes the text malformed. So a text writes the same value after its
line ends are unified, and reading it crashes as before. -/

namespace CrateGuard.Json
open Text (unifyNewlines)

private theorem hexValue?_lineEnd {c : CodePoint} {n : Nat} (h : Text.hexValue? c = some n) :
    c ≠ .char '\r' ∧ c ≠ .char '\n' := by
  constructor
  · rintro rfl
    cases h
  · rintro rfl
    cases h

/-- The number that four hexadecimal digits write and the text after them, which has to go on. -/
def quad? : Text → Option (Nat × Text)
  | a :: b :: c :: d :: next :: rest => (hexQuad? a b c d).map fun n => (n, next :: rest)
  | _ => none

private theorem hexQuad?_eq_some {a b c d : CodePoint} {n : Nat} (h : hexQuad? a b c d = some n) :
    ∀ digit ∈ [a, b, c, d], digit ≠ .char '\r' ∧ digit ≠ .char '\n' := by
  unfold hexQuad? at h
  obtain ⟨_, ha, h⟩ := Option.bind_eq_some_iff.mp h
  obtain ⟨_, hb, h⟩ := Option.bind_eq_some_iff.mp h
  obtain ⟨_, hc, h⟩ := Option.bind_eq_some_iff.mp h
  obtain ⟨_, hd, _⟩ := Option.bind_eq_some_iff.mp h
  simp only [List.forall_mem_cons]
  exact ⟨hexValue?_lineEnd ha, hexValue?_lineEnd hb, hexValue?_lineEnd hc, hexValue?_lineEnd hd, by simp⟩

theorem quad?_eq_some {s after : Text} {n : Nat} :
    quad? s = some (n, after) ↔
      ∃ a b c d, hexQuad? a b c d = some n ∧ s = [a, b, c, d] ++ after ∧ after ≠ [] := by
  constructor
  · intro h
    unfold quad? at h
    split at h
    · rename_i a b c d next rest
      obtain ⟨value, hvalue, he⟩ := Option.map_eq_some_iff.mp h
      cases he
      exact ⟨a, b, c, d, hvalue, rfl, List.cons_ne_nil _ _⟩
    · cases h
  · rintro ⟨a, b, c, d, hvalue, rfl, hafter⟩
    obtain ⟨next, rest, rfl⟩ := List.exists_cons_of_ne_nil hafter
    simp [quad?, hvalue]

private theorem quad?_unifyNewlines (s : Text) :
    quad? (unifyNewlines s) = (quad? s).map fun found => (found.1, unifyNewlines found.2) := by
  cases hleft : quad? s with
  | some found =>
    obtain ⟨n, after⟩ := found
    obtain ⟨a, b, c, d, hvalue, rfl, hafter⟩ := quad?_eq_some.mp hleft
    have hdigits : ∀ digit ∈ [a, b, c, d], digit ≠ .char '\r' := fun digit h => (hexQuad?_eq_some hvalue digit h).1
    rw [Text.unifyNewlines_append hdigits]
    exact quad?_eq_some.mpr ⟨a, b, c, d, hvalue, rfl, fun h => hafter (Text.unifyNewlines_eq_nil_iff.mp h)⟩
  | none =>
    cases hright : quad? (unifyNewlines s) with
    | none => rfl
    | some found =>
      obtain ⟨n, after⟩ := found
      obtain ⟨a, b, c, d, hvalue, hs, hafter⟩ := quad?_eq_some.mp hright
      have hdigits : ∀ digit ∈ [a, b, c, d], digit ≠ .char '\n' := fun digit h => (hexQuad?_eq_some hvalue digit h).2
      obtain ⟨rest, hrest, hunified⟩ := Text.eq_append_of_unifyNewlines hdigits hs
      have hsome : quad? s = some (n, rest) := by
        refine quad?_eq_some.mpr ⟨a, b, c, d, hvalue, hrest, ?_⟩
        rintro rfl
        exact hafter hunified.symm
      rw [hleft] at hsome
      cases hsome

theorem unicodeEscape_eq (mark s : Text) :
    unicodeEscape mark s = match quad? s with
      | none => .problem .badUnicodeEscape mark
      | some (unit, after) =>
        if isHighSurrogate unit then secondHalf unit after else .point (CodePoint.ofCode unit) after := by
  unfold unicodeEscape
  split
  · rw [quad?]
    cases hexQuad? _ _ _ _ <;> rfl
  · rename_i hshort
    rw [quad?.eq_2 _ hshort]

private theorem secondHalf_of_not_escape (high : Nat) {s : Text}
    (h : ∀ t, s ≠ .char '\\' :: .char 'u' :: t) : secondHalf high s = .point (CodePoint.ofCode high) s := by
  unfold secondHalf
  split
  · exact absurd rfl (h _)
  · rfl

private theorem secondHalf_of_quad (high : Nat) {t after : Text} {low : Nat}
    (h : quad? t = some (low, after)) :
    secondHalf high (.char '\\' :: .char 'u' :: t) =
      if isLowSurrogate low then .point (pairPoint high low) after
      else .point (CodePoint.ofCode high) (.char '\\' :: .char 'u' :: t) := by
  obtain ⟨a, b, c, d, hvalue, rfl, hafter⟩ := quad?_eq_some.mp h
  obtain ⟨next, rest, rfl⟩ := List.exists_cons_of_ne_nil hafter
  simp [secondHalf, hvalue]

/-- An escape after which no text can be closed: a bad one, or one with a bad one behind it. -/
def Escaped.IsDead : Escaped → Prop
  | .point _ after => ∃ t, after = .char '\\' :: .char 'u' :: t ∧ quad? t = none
  | .problem _ _ => True

/-- A bad escape after a first half of a pair is found at once or left to be found next. -/
private theorem secondHalf_isDead (high : Nat) {t : Text} (h : quad? t = none) :
    (secondHalf high (.char '\\' :: .char 'u' :: t)).IsDead := by
  unfold secondHalf
  split
  · rename_i a b c d next rest heq
    cases heq
    cases hvalue : hexQuad? a b c d with
    | none => trivial
    | some n => simp [quad?, hvalue] at h
  · exact ⟨t, rfl, h⟩

def afterEscape (quote done : Text) : Escaped → StringScan
  | .point c after => scanString quote (c :: done) after
  | .problem what place => .problem what place

private theorem scanString_backslash (quote done rest : Text) :
    scanString quote done (.char '\\' :: rest) =
      afterEscape quote done (escape quote (.char '\\' :: rest) rest) := by
  rw [scanString, if_neg (by decide), if_pos rfl]
  split <;> simp_all [afterEscape]

def StringScan.closed? : StringScan → Option (Text × Text)
  | .closed s rest => some (s, rest)
  | .problem _ _ => none

private theorem closed?_afterEscape_of_isDead {escaped : Escaped} (h : escaped.IsDead)
    (quote done : Text) :
    (afterEscape quote done escaped).closed? = none := by
  cases escaped with
  | problem what place => rfl
  | point c after =>
    obtain ⟨t, rfl, hquad⟩ := h
    rw [afterEscape, scanString_backslash, escape, unicodeEscape_eq, hquad]
    rfl

/-- Two escapes that give the same character, with the line ends after the second one unified, or
after which no text can be closed. -/
def Escaped.Alike (escaped unified : Escaped) : Prop :=
  (∃ c after, escaped = .point c after ∧ unified = .point c (unifyNewlines after)) ∨
    escaped.IsDead ∧ unified.IsDead

private theorem secondHalf_unifyNewlines (high : Nat) (s : Text) :
    (secondHalf high s).Alike (secondHalf high (unifyNewlines s)) := by
  by_cases hs : ∃ t, s = .char '\\' :: .char 'u' :: t
  · obtain ⟨t, rfl⟩ := hs
    have hmarks : unifyNewlines (.char '\\' :: .char 'u' :: t) = .char '\\' :: .char 'u' :: unifyNewlines t := by
      rw [Text.unifyNewlines_cons (by decide), Text.unifyNewlines_cons (by decide)]
    have hunified := quad?_unifyNewlines t
    cases hquad : quad? t with
    | none =>
      rw [hquad] at hunified
      rw [hmarks]
      exact .inr ⟨secondHalf_isDead high hquad, secondHalf_isDead high hunified⟩
    | some found =>
      obtain ⟨low, after⟩ := found
      rw [hquad] at hunified
      left
      rw [hmarks, secondHalf_of_quad high hquad, secondHalf_of_quad high hunified]
      by_cases hlow : isLowSurrogate low = true
      · rw [if_pos hlow, if_pos hlow]
        exact ⟨_, _, rfl, rfl⟩
      · rw [if_neg hlow, if_neg hlow, ← hmarks]
        exact ⟨_, _, rfl, rfl⟩
  · have hs' : ∀ t, unifyNewlines s ≠ .char '\\' :: .char 'u' :: t := by
      intro t h
      obtain ⟨first, rfl, hfirst⟩ := Text.eq_cons_of_unifyNewlines (by decide) h
      obtain ⟨second, rfl, _⟩ := Text.eq_cons_of_unifyNewlines (by decide) hfirst
      exact hs ⟨second, rfl⟩
    rw [secondHalf_of_not_escape high fun t h => hs ⟨t, h⟩, secondHalf_of_not_escape high hs']
    exact .inl ⟨_, _, rfl, rfl⟩

private theorem unicodeEscape_unifyNewlines (mark mark' s : Text) :
    (unicodeEscape mark s).Alike (unicodeEscape mark' (unifyNewlines s)) := by
  rw [unicodeEscape_eq, unicodeEscape_eq, quad?_unifyNewlines]
  cases quad? s with
  | none => exact .inr ⟨trivial, trivial⟩
  | some found =>
    obtain ⟨unit, after⟩ := found
    dsimp only [Option.map_some]
    by_cases hhigh : isHighSurrogate unit = true
    · rw [if_pos hhigh, if_pos hhigh]
      exact secondHalf_unifyNewlines unit after
    · rw [if_neg hhigh, if_neg hhigh]
      exact .inl ⟨_, _, rfl, rfl⟩

private theorem escape_unifyNewlines (quote slash quote' slash' s : Text) :
    (escape quote slash s).Alike (escape quote' slash' (unifyNewlines s)) := by
  cases s with
  | nil => exact .inr ⟨trivial, trivial⟩
  | cons c rest =>
    by_cases hc : c = .char '\r'
    · obtain ⟨after, h, _⟩ := Text.unifyNewlines_return rest
      rw [hc, h]
      exact .inr ⟨trivial, trivial⟩
    · rw [Text.unifyNewlines_cons hc]
      unfold escape
      dsimp only
      split
      case h_9 => exact unicodeEscape_unifyNewlines _ _ _
      case h_10 => exact .inr ⟨trivial, trivial⟩
      all_goals exact .inl ⟨_, _, rfl, rfl⟩

/-- A text is closed at the same place with the line ends after it unified; there are none within
it. -/
private theorem closed?_scanString_unifyNewlines (quote quote' done s : Text) :
    (scanString quote' done (unifyNewlines s)).closed? =
      (scanString quote done s).closed?.map fun found => (found.1, unifyNewlines found.2) := by
  fun_induction scanString quote done s with
  | case1 done => rw [unifyNewlines, scanString]; rfl
  | case2 done rest =>
    rw [Text.unifyNewlines_cons (by decide), scanString]
    rfl
  | case3 done rest _ e after he ih =>
    -- of all steps only an escape looks ahead, and may see another text there
    rw [Text.unifyNewlines_cons (by decide), scanString_backslash]
    rcases escape_unifyNewlines quote (.char '\\' :: rest) quote' (.char '\\' :: unifyNewlines rest) rest with
      ⟨c, next, hpoint, hunified⟩ | ⟨hdead, hunified⟩
    · rw [he] at hpoint
      cases hpoint
      rw [hunified, afterEscape, ih]
    · have hnone := closed?_afterEscape_of_isDead hdead quote done
      rw [he] at hnone
      rw [closed?_afterEscape_of_isDead hunified]
      rw [afterEscape] at hnone
      rw [hnone]
      rfl
  | case4 done rest _ what place he =>
    rw [Text.unifyNewlines_cons (by decide), scanString_backslash]
    rcases escape_unifyNewlines quote (.char '\\' :: rest) quote' (.char '\\' :: unifyNewlines rest) rest with
      ⟨c, next, hpoint, _⟩ | ⟨_, hunified⟩
    · rw [he] at hpoint
      cases hpoint
    · rw [closed?_afterEscape_of_isDead hunified]
      rfl
  | case5 done c rest hquote hslash hcontrol =>
    by_cases hc : c = .char '\r'
    · obtain ⟨after, h, _⟩ := Text.unifyNewlines_return rest
      rw [hc, h, scanString]
      rfl
    · rw [Text.unifyNewlines_cons hc, scanString, if_neg hquote, if_neg hslash, if_pos hcontrol]
      rfl
  | case6 done c rest hquote hslash hcontrol ih =>
    have hc : c ≠ .char '\r' := by
      rintro rfl
      exact hcontrol (by decide)
    rw [Text.unifyNewlines_cons hc, scanString, if_neg hquote, if_neg hslash, if_neg hcontrol, ih]

def unifyRest {α : Type} (cut : α × Text) : α × Text := (cut.1, unifyNewlines cut.2)

@[simp] theorem unifyRest_fst {α : Type} (cut : α × Text) : (unifyRest cut).1 = cut.1 := rfl

@[simp] theorem unifyRest_snd {α : Type} (cut : α × Text) : (unifyRest cut).2 = unifyNewlines cut.2 := rfl

private theorem takeDigits_unifyNewlines (s : Text) :
    takeDigits (unifyNewlines s) = unifyRest (takeDigits s) := by
  rw [takeDigits, Text.takeWhile_unifyNewlines rfl rfl, Text.dropWhile_unifyNewlines rfl rfl]
  rfl

/-- A text that starts with a given character other than a line end keeps it, and no other text gets
it. -/
private theorem unifyNewlines_startsWith (s : Text) {c : CodePoint} (hreturn : c ≠ .char '\r')
    (hfeed : c ≠ .char '\n') :
    (∃ rest, s = c :: rest ∧ unifyNewlines s = c :: unifyNewlines rest) ∨
      (∀ rest, s ≠ c :: rest) ∧ ∀ rest, unifyNewlines s ≠ c :: rest := by
  by_cases hs : ∃ rest, s = c :: rest
  · obtain ⟨rest, rfl⟩ := hs
    exact .inl ⟨rest, rfl, Text.unifyNewlines_cons hreturn rest⟩
  · refine .inr ⟨fun rest h => hs ⟨rest, h⟩, ?_⟩
    intro rest h
    obtain ⟨before, hbefore, _⟩ := Text.eq_cons_of_unifyNewlines hfeed h
    exact hs ⟨before, hbefore⟩

private theorem numberBody_unifyNewlines (s : Text) :
    numberBody (unifyNewlines s) = unifyRest (numberBody s) := by
  rcases unifyNewlines_startsWith s (c := .char '-') (by decide) (by decide) with ⟨rest, rfl, h⟩ | ⟨hs, hunified⟩
  · rw [h]
    rfl
  · rw [numberBody.eq_2 _ hs, numberBody.eq_2 _ hunified]
    rfl

private theorem takeWhole_unifyNewlines (s : Text) :
    takeWhole (unifyNewlines s) = unifyRest (takeWhole s) := by
  rcases unifyNewlines_startsWith s (c := .char '0') (by decide) (by decide) with ⟨rest, rfl, h⟩ | ⟨hs, hunified⟩
  · rw [h]
    rfl
  · rw [takeWhole.eq_2 _ hs, takeWhole.eq_2 _ hunified, takeDigits_unifyNewlines]

private theorem takeFraction_unifyNewlines (s : Text) :
    takeFraction (unifyNewlines s) = unifyRest (takeFraction s) := by
  rcases unifyNewlines_startsWith s (c := .char '.') (by decide) (by decide) with ⟨rest, rfl, h⟩ | ⟨hs, hunified⟩
  · rw [h, takeFraction, takeFraction, takeDigits_unifyNewlines]
    dsimp only [unifyRest]
    split_ifs
    · rw [h]
    · rfl
  · rw [takeFraction.eq_2 _ hs, takeFraction.eq_2 _ hunified]
    rfl

private theorem takeSign_unifyNewlines (s : Text) :
    Text.takeSign (unifyNewlines s) = unifyRest (Text.takeSign s) := by
  rcases unifyNewlines_startsWith s (c := .char '-') (by decide) (by decide) with ⟨rest, rfl, h⟩ | ⟨hminus, hminus'⟩
  · rw [h]
    rfl
  · rcases unifyNewlines_startsWith s (c := .char '+') (by decide) (by decide) with ⟨rest, rfl, h⟩ | ⟨hplus, hplus'⟩
    · rw [h]
      rfl
    · rw [Text.takeSign.eq_3 _ hminus hplus, Text.takeSign.eq_3 _ hminus' hplus']
      rfl

private theorem takeExponent_unifyNewlines (s : Text) :
    takeExponent (unifyNewlines s) = unifyRest (takeExponent s) := by
  cases s with
  | nil => rfl
  | cons c rest =>
    by_cases hc : c = .char '\r'
    · obtain ⟨after, h, _⟩ := Text.unifyNewlines_return rest
      rw [hc, takeExponent, if_neg (by decide), unifyRest, h, takeExponent, if_neg (by decide)]
    · simp only [Text.unifyNewlines_cons hc, takeExponent, takeSign_unifyNewlines, takeDigits_unifyNewlines,
        unifyRest_fst, unifyRest_snd]
      split_ifs <;> simp only [unifyRest, Text.unifyNewlines_cons hc]

private theorem takeNumber_unifyNewlines (s : Text) :
    takeNumber (unifyNewlines s) = (takeNumber s).map unifyRest := by
  simp only [takeNumber, numberBody_unifyNewlines, takeWhole_unifyNewlines, takeFraction_unifyNewlines,
    takeExponent_unifyNewlines, unifyRest_fst, unifyRest_snd]
  split_ifs <;> rfl

private theorem words_noLineEnd : ∀ word ∈ words, ∀ c ∈ word.1, c ≠ .char '\r' ∧
    c ≠ .char '\n' := by decide

private theorem isPrefixOf_unifyNewlines {word : Text}
    (hword : ∀ c ∈ word, c ≠ .char '\r' ∧ c ≠ .char '\n') (s : Text) :
    word.isPrefixOf (unifyNewlines s) = word.isPrefixOf s := by
  rw [Bool.eq_iff_iff, List.isPrefixOf_iff_prefix, List.isPrefixOf_iff_prefix]
  constructor
  · rintro ⟨t, ht⟩
    obtain ⟨rest, rfl, _⟩ := Text.eq_append_of_unifyNewlines (fun c hc => (hword c hc).2) ht.symm
    exact List.prefix_append word rest
  · rintro ⟨rest, rfl⟩
    rw [Text.unifyNewlines_append fun c hc => (hword c hc).1]
    exact List.prefix_append word _

private theorem takeWord_unifyNewlines (s : Text) :
    takeWord (unifyNewlines s) = (takeWord s).map unifyRest := by
  have hfind : (words.find? fun word => word.1.isPrefixOf (unifyNewlines s)) =
      words.find? fun word => word.1.isPrefixOf s :=
    List.find?_congr fun word hmem => isPrefixOf_unifyNewlines (words_noLineEnd word hmem) s
  rw [takeWord, takeWord, hfind]
  cases hword : words.find? fun word => word.1.isPrefixOf s with
  | none => rfl
  | some word =>
    obtain ⟨rest, rfl⟩ := List.isPrefixOf_iff_prefix.mp
      (List.find?_some (p := fun word : Text × Json => word.1.isPrefixOf s) hword)
    have hreturn : ∀ c ∈ word.1, c ≠ .char '\r' := fun c hc =>
      (words_noLineEnd word (List.mem_of_find?_eq_some hword) c hc).1
    rw [Option.map_some, Option.map_some, Option.map_some, unifyRest, Text.unifyNewlines_append hreturn,
      List.drop_left, List.drop_left]

/-- A lexeme without what tells of a bad text. -/
def Token.outline : Token → Token
  | .badString _ _ => .badString .openString []
  | token => token

private theorem takeLexeme_unifyNewlines {c : CodePoint} (hc : c ≠ .char '\r') (rest : Text) :
    (takeLexeme c (unifyNewlines rest)).1.outline = (takeLexeme c rest).1.outline ∧
      (takeLexeme c (unifyNewlines rest)).2 = unifyNewlines (takeLexeme c rest).2 := by
  unfold takeLexeme
  split
  case h_7 =>
    have h := closed?_scanString_unifyNewlines (.char '"' :: rest) (.char '"' :: unifyNewlines rest) [] rest
    cases hleft : scanString (.char '"' :: rest) [] rest <;>
      cases hright : scanString (.char '"' :: unifyNewlines rest) [] (unifyNewlines rest) <;>
      simp_all [StringScan.closed?, Token.outline, unifyNewlines]
  case h_8 =>
    rw [← Text.unifyNewlines_cons hc, takeWord_unifyNewlines, takeNumber_unifyNewlines]
    cases takeWord (c :: rest) with
    | some found => exact ⟨rfl, rfl⟩
    | none => cases takeNumber (c :: rest) <;> exact ⟨rfl, rfl⟩
  all_goals exact ⟨rfl, rfl⟩

theorem lexemes_gap {c : CodePoint} (h : isGap c = true) (rest : Text) :
    lexemes (c :: rest) = lexemes rest := by
  rw [lexemes, if_pos h]

private theorem outline_lexemes_unifyNewlines (s : Text) :
    (lexemes (unifyNewlines s)).map (fun placed => placed.token.outline) =
      (lexemes s).map fun placed => placed.token.outline := by
  fun_induction lexemes s with
  | case1 => rw [unifyNewlines, lexemes]
  | case2 c rest hgap ih =>
    -- a carriage return with its line feed is two gaps in the one text and one in the other
    by_cases hc : c = .char '\r'
    · obtain ⟨after, h, hafter⟩ := Text.unifyNewlines_return rest
      rw [hc, h, lexemes_gap rfl, ← ih]
      rcases hafter with rfl | rfl
      · rfl
      · rw [Text.unifyNewlines_cons (by decide), lexemes_gap rfl]
    · rw [Text.unifyNewlines_cons hc, lexemes_gap hgap, ih]
  | case3 c rest hgap ih =>
    have hc : c ≠ .char '\r' := by
      rintro rfl
      exact hgap rfl
    obtain ⟨htoken, hrest⟩ := takeLexeme_unifyNewlines hc rest
    rw [Text.unifyNewlines_cons hc, lexemes, if_neg hgap, List.map_cons, List.map_cons, hrest, ih]
    exact congrArg (· :: _) htoken

def Stop.crash? : Stop → Option Crash
  | .problem _ _ => none
  | .longNumeral _ => some .unreadableNumeral
  | .tooDeep _ => some .tooDeep

def Placed.outline (lexeme : Placed) : Placed := ⟨lexeme.token.outline, []⟩

namespace Machine

variable (limit : Nat)

private theorem step_outline (m : Machine) (lexeme : Placed) :
    (m.step limit lexeme.outline).mapError Stop.crash? = (m.step limit lexeme).mapError Stop.crash? := by
  obtain ⟨token, rest⟩ := lexeme
  cases token <;> cases m <;> rfl

theorem run_cons (m : Machine) (lexeme : Placed) (row : List Placed) :
    m.run limit (lexeme :: row) = m.step limit lexeme >>= fun next => next.run limit row := by
  rw [run]
  cases m.step limit lexeme <;> rfl

theorem run_outline (m : Machine) (row : List Placed) :
    (m.run limit (row.map Placed.outline)).mapError Stop.crash? = (m.run limit row).mapError Stop.crash? := by
  induction row generalizing m with
  | nil => rfl
  | cons lexeme later ih =>
    rw [List.map_cons, run_cons, run_cons]
    exact mapError_bind_congr (step_outline limit m lexeme) ih

end Machine

private theorem readUpTo_unifyNewlines (limit : Nat) (s : Text) :
    (readUpTo limit (unifyNewlines s)).mapError Stop.crash? = (readUpTo limit s).mapError Stop.crash? := by
  rcases unifyNewlines_startsWith s (c := .char '\uFEFF') (by decide) (by decide) with ⟨rest, rfl, h⟩ | ⟨hs, hunified⟩
  · rw [h]
    rfl
  · have houtline : (lexemes (unifyNewlines s)).map Placed.outline = (lexemes s).map Placed.outline := by
      have h := congrArg (List.map fun token => Placed.mk token []) (outline_lexemes_unifyNewlines s)
      rw [List.map_map, List.map_map] at h
      exact h
    rw [readUpTo.eq_2 limit _ hs, readUpTo.eq_2 limit _ hunified, ← Machine.run_outline, houtline, Machine.run_outline]

theorem decode_eq (limit : Nat) (s : Text) :
    (decode limit s).map Except.toOption = match (readUpTo limit s).mapError Stop.crash? with
      | .ok value => .ok (some value)
      | .error none => .ok none
      | .error (some crash) => .error crash := by
  unfold decode read
  cases readUpTo limit s with
  | ok value => rfl
  | error stop => cases stop <;> rfl

/-- Line ends make no difference to the value that a text writes, nor to whether reading it crashes.
Only the problem that is found in a malformed text may be told in another way. -/
theorem decode_unifyNewlines (limit : Nat) (s : Text) :
    (decode limit (unifyNewlines s)).map Except.toOption = (decode limit s).map Except.toOption := by
  rw [decode_eq, decode_eq, readUpTo_unifyNewlines]

end CrateGuard.Json
