import Mathlib.Tactic.SplitIfs
import CrateGuard.Proofs.Json.LineEnds
import CrateGuard.Proofs.Version.Parsing

/-! The limits of reading JSON. Only a whole number with a long row of digits and a deep nesting of
lists and objects end the reading of a text with a crash. Each leaves its mark in the text: the row
of digits stands in it, and so do the brackets of the lists and objects that are open at a time. -/

namespace CrateGuard.Json

private theorem secondHalf_suffix {high : Nat} {s rest : Text} {c : CodePoint}
    (h : secondHalf high s = .point c rest) :
    rest <:+ s := by
  unfold secondHalf at h
  split at h
  · rename_i a b c d next after
    split at h
    · cases h
    · split_ifs at h
      · simp only [Escaped.point.injEq] at h
        rw [← h.2]
        exact ⟨[.char '\\', .char 'u', a, b, c, d], rfl⟩
      · simp only [Escaped.point.injEq] at h
        exact h.2 ▸ List.suffix_rfl
  · cases h
    exact List.suffix_rfl

private theorem unicodeEscape_suffix {mark s rest : Text} {c : CodePoint}
    (h : unicodeEscape mark s = .point c rest) :
    rest <:+ s := by
  rw [unicodeEscape_eq] at h
  cases hquad : quad? s with
  | none =>
    rw [hquad] at h
    cases h
  | some found =>
    obtain ⟨unit, after⟩ := found
    obtain ⟨x, y, z, w, _, rfl, _⟩ := quad?_eq_some.mp hquad
    rw [hquad] at h
    dsimp only at h
    split_ifs at h
    · exact (secondHalf_suffix h).trans (List.suffix_append _ _)
    · cases h
      exact List.suffix_append _ _

private theorem escape_suffix {quote slash s rest : Text} {c : CodePoint}
    (h : escape quote slash s = .point c rest) :
    rest <:+ s := by
  unfold escape at h
  split at h
  · cases h
  · split at h
    case h_9 => exact (unicodeEscape_suffix h).trans (List.suffix_cons _ _)
    case h_10 => cases h
    all_goals
      cases h
      exact List.suffix_cons _ _

private theorem scanString_suffix {quote done s text rest : Text}
    (h : scanString quote done s = .closed text rest) :
    rest <:+ s := by
  fun_induction scanString quote done s with
  | case1 => cases h
  | case2 =>
    cases h
    exact List.suffix_cons _ _
  | case3 done tail _ e after he ih => exact (ih h).trans ((escape_suffix he).trans (List.suffix_cons _ _))
  | case4 => cases h
  | case5 => cases h
  | case6 done c tail _ _ _ ih => exact (ih h).trans (List.suffix_cons _ _)

private theorem takeDigits_suffix (s : Text) : (takeDigits s).2 <:+ s := List.dropWhile_suffix _

private theorem numberBody_suffix (s : Text) : (numberBody s).2 <:+ s := by
  unfold numberBody
  split
  · exact List.suffix_cons _ _
  · exact List.suffix_rfl

private theorem takeWhole_suffix (s : Text) : (takeWhole s).2 <:+ s := by
  unfold takeWhole
  split
  · exact List.suffix_cons _ _
  · exact takeDigits_suffix s

private theorem takeFraction_suffix (s : Text) : (takeFraction s).2 <:+ s := by
  unfold takeFraction
  split
  · rename_i rest
    dsimp only
    split_ifs
    · exact List.suffix_rfl
    · exact (takeDigits_suffix rest).trans (List.suffix_cons _ _)
  · exact List.suffix_rfl

private theorem takeSign_suffix (s : Text) : (Text.takeSign s).2 <:+ s := by
  unfold Text.takeSign
  split
  · exact List.suffix_cons _ _
  · exact List.suffix_cons _ _
  · exact List.suffix_rfl

private theorem takeExponent_suffix (s : Text) : (takeExponent s).2 <:+ s := by
  unfold takeExponent
  split
  · rename_i c rest
    dsimp only
    split_ifs
    · exact List.suffix_rfl
    · exact ((takeDigits_suffix _).trans (takeSign_suffix rest)).trans (List.suffix_cons _ _)
    · exact List.suffix_rfl
  · exact List.suffix_rfl

private theorem takeWhole_digits (s : Text) : (takeWhole s).1 <+: s ∧
    (takeWhole s).1.all Text.isAsciiDigit = true := by
  unfold takeWhole
  split
  · exact ⟨List.prefix_append [CodePoint.char '0'] _, rfl⟩
  · exact ⟨List.takeWhile_prefix _, List.all_takeWhile⟩

def Token.opens : Token → Bool
  | .openList | .openObject => true
  | _ => false

/-- How many lists and objects are open after a token, from how many are before it. -/
def Token.depthAfter (depth : Nat) : Token → Nat
  | .openList | .openObject => depth + 1
  | .closeList | .closeObject => depth - 1
  | _ => depth

/-- The most lists and objects that are open at a time in a row of lexemes. -/
def deepest (depth : Nat) : List Placed → Nat
  | [] => depth
  | lexeme :: later => max depth (deepest (lexeme.token.depthAfter depth) later)

/-- How deep lists and objects stand in one another in a text. Brackets within strings do not
count, nor do they have to match. -/
def nesting (s : Text) : Nat :=
  deepest 0 (lexemes s)

example : nesting "[[\"[\"], \x7b\"a\": []\x7d]" = 3 := by cbv

def isBracket (c : CodePoint) : Bool :=
  c == '[' || c == '\x7b'

/-- A text has a row of digits that is too long for a whole number. -/
def HasLongRun (s : Text) : Prop :=
  ∃ run, run <:+: s ∧ run.all Text.isAsciiDigit = true ∧ Text.digitLimit < run.length

private theorem HasLongRun.of_suffix {s t : Text} (h : HasLongRun t) (hsuffix : t <:+ s) :
    HasLongRun s := by
  obtain ⟨run, hrun, hdigits, hlong⟩ := h
  exact ⟨run, hrun.trans hsuffix.isInfix, hdigits, hlong⟩

private theorem takeNumber_eq_some {s rest : Text} {token : Token}
    (h : takeNumber s = some (token, rest)) :
    rest <:+ s ∧ token.opens = false ∧ ∀ n, token = .longNumeral n → HasLongRun s := by
  have hsuffix : (takeExponent (takeFraction (takeWhole (numberBody s).2).2).2).2 <:+ s :=
    (takeExponent_suffix _).trans ((takeFraction_suffix _).trans ((takeWhole_suffix _).trans (numberBody_suffix s)))
  obtain ⟨hdigits, hall⟩ := takeWhole_digits (numberBody s).2
  unfold takeNumber at h
  dsimp only at h
  split_ifs at h with _ _ hlong
  · cases h
    refine ⟨hsuffix, rfl, ?_⟩
    rintro n _
    exact ⟨_, hdigits.isInfix.trans (numberBody_suffix s).isInfix, hall, hlong⟩
  · cases h
    exact ⟨hsuffix, rfl, nofun⟩
  · cases h
    exact ⟨hsuffix, rfl, nofun⟩

/-- What a lexeme leaves is an end of the text. One that opens takes a bracket and no more, and one
that is too long a number has its digits in the text. -/
private theorem takeLexeme_spec (c : CodePoint) (rest : Text) :
    (takeLexeme c rest).2 <:+ c :: rest ∧
      ((takeLexeme c rest).1.opens = true → isBracket c = true ∧ (takeLexeme c rest).2 = rest) ∧
      ∀ n, (takeLexeme c rest).1 = .longNumeral n → HasLongRun (c :: rest) := by
  unfold takeLexeme
  split
  case h_7 =>
    split
    · rename_i hscan
      exact ⟨(scanString_suffix hscan).trans (List.suffix_cons _ _), nofun, nofun⟩
    · exact ⟨List.nil_suffix, nofun, nofun⟩
  case h_8 =>
    cases hword : takeWord (c :: rest) with
    | some found =>
      obtain ⟨word, _, rfl⟩ := Option.map_eq_some_iff.mp hword
      exact ⟨List.drop_suffix _ _, nofun, nofun⟩
    | none =>
      cases hnumber : takeNumber (c :: rest) with
      | none => exact ⟨List.nil_suffix, nofun, nofun⟩
      | some found =>
        obtain ⟨token, after⟩ := found
        obtain ⟨hsuffix, hopens, hlong⟩ := takeNumber_eq_some hnumber
        refine ⟨hsuffix, ?_, hlong⟩
        intro h
        rw [Option.getD_some, hopens] at h
        cases h
  case h_1 => exact ⟨List.suffix_cons _ _, fun _ => ⟨rfl, rfl⟩, nofun⟩
  case h_3 => exact ⟨List.suffix_cons _ _, fun _ => ⟨rfl, rfl⟩, nofun⟩
  all_goals exact ⟨List.suffix_cons _ _, nofun, nofun⟩

private theorem Token.depthAfter_mono (token : Token) {depth more : Nat} (h : depth ≤ more) :
    token.depthAfter depth ≤ token.depthAfter more := by
  cases token with
  | openList | openObject => exact Nat.succ_le_succ h
  | closeList | closeObject => exact Nat.sub_le_sub_right h 1
  | _ => exact h

private theorem Token.depthAfter_le (token : Token) (depth : Nat) :
    token.depthAfter depth ≤ depth + token.opens.toNat := by
  cases token with
  | closeList | closeObject => exact Nat.sub_le _ _
  | _ => exact Nat.le_refl _

private theorem le_deepest (depth : Nat) (row : List Placed) : depth ≤ deepest depth row := by
  cases row with
  | nil => exact Nat.le_refl _
  | cons lexeme later => exact Nat.le_max_left _ _

private theorem deepest_mono {depth more : Nat} (h : depth ≤ more) (row : List Placed) :
    deepest depth row ≤ deepest more row := by
  induction row generalizing depth more with
  | nil => exact h
  | cons lexeme later ih =>
    have hlater := ih (lexeme.token.depthAfter_mono h)
    exact Nat.max_le.mpr ⟨h.trans (Nat.le_max_left _ _), hlater.trans (Nat.le_max_right _ _)⟩

private theorem deepest_le_countP (depth : Nat) (row : List Placed) :
    deepest depth row ≤ depth + row.countP fun placed => placed.token.opens := by
  induction row generalizing depth with
  | nil => exact Nat.le_refl _
  | cons lexeme later ih =>
    have hlater := ih (lexeme.token.depthAfter depth)
    have hafter := lexeme.token.depthAfter_le depth
    rw [List.countP_cons, deepest, Nat.max_le]
    cases hopens : lexeme.token.opens <;> simp [hopens] at hafter ⊢ <;> omega

/-- No more lists and objects are opened than there are brackets. -/
private theorem countP_opens_lexemes (s : Text) :
    (lexemes s).countP (fun placed => placed.token.opens) ≤ s.countP isBracket := by
  fun_induction lexemes s with
  | case1 => exact Nat.le_refl _
  | case2 c rest _ ih => exact ih.trans (List.sublist_cons_self c rest).countP_le
  | case3 c rest _ ih =>
    obtain ⟨hsuffix, hopens, _⟩ := takeLexeme_spec c rest
    rw [List.countP_cons]
    -- other lexemes may take brackets with them, as strings do, so this is a bound only
    by_cases h : (takeLexeme c rest).1.opens = true
    · obtain ⟨hbracket, hrest⟩ := hopens h
      rw [if_pos h, List.countP_cons_of_pos hbracket]
      rw [hrest] at ih ⊢
      exact Nat.succ_le_succ ih
    · rw [if_neg h]
      exact ih.trans hsuffix.sublist.countP_le

private theorem hasLongRun_of_lexeme {s : Text} {n : Nat}
    (h : ∃ placed ∈ lexemes s, placed.token = .longNumeral n) :
    HasLongRun s := by
  fun_induction lexemes s with
  | case1 =>
    obtain ⟨placed, hmem, _⟩ := h
    cases hmem
  | case2 c rest _ ih => exact (ih h).of_suffix (List.suffix_cons c rest)
  | case3 c rest _ ih =>
    obtain ⟨hsuffix, _, hlong⟩ := takeLexeme_spec c rest
    obtain ⟨placed, hmem, htoken⟩ := h
    rcases List.mem_cons.mp hmem with rfl | hlater
    · exact hlong n htoken
    · exact (ih ⟨placed, hlater, htoken⟩).of_suffix hsuffix

namespace Machine

def depth : Machine → Nat
  | .value outer => outer.length
  | .firstItem outer | .afterItem _ outer | .firstName outer | .nextName _ outer | .afterName _ _ outer
  | .afterField _ outer => outer.length + 1
  | .finished _ => 0

private theorem depth_complete (v : Json) (outer : List Frame) :
    (complete v outer).depth ≤ outer.length := by
  cases outer with
  | nil => exact Nat.le_refl _
  | cons frame outer => cases frame <;> exact Nat.le_refl _

variable (limit : Nat)

/-- A step that leaves no more lists and objects open than a number says, and refuses to nest deeper
only where that would be more than the limit. -/
def Within (bound : Nat) : Except Stop Machine → Prop
  | .ok next => next.depth ≤ bound
  | .error (.tooDeep _) => limit < bound
  | .error _ => True

private theorem within_complete (v : Json) (outer : List Frame) :
    Within limit outer.length (.ok (complete v outer)) :=
  depth_complete v outer

private theorem within_enter (inObject : Bool) (outer : List Frame) :
    Within limit (outer.length + 1) (enter limit inObject outer) := by
  unfold enter
  split_ifs with hlimit
  · exact Nat.lt_succ_of_le hlimit
  · exact Nat.le_refl _
  · exact Nat.le_refl _

private theorem within_startValue (outer : List Frame) (lexeme : Placed) :
    Within limit (lexeme.token.depthAfter outer.length) (startValue limit outer lexeme) := by
  obtain ⟨token, rest⟩ := lexeme
  cases token with
  | openList => exact within_enter limit false outer
  | openObject => exact within_enter limit true outer
  | string s => exact within_complete limit _ outer
  | plain v => exact within_complete limit _ outer
  | _ => exact trivial

private theorem within_startName (fields : Fields) (outer : List Frame) (lexeme : Placed) :
    Within limit (lexeme.token.depthAfter (outer.length + 1)) (startName fields outer lexeme) := by
  obtain ⟨token, rest⟩ := lexeme
  cases token with
  | string name => exact Nat.le_refl _
  | _ => exact trivial

/-- The machine opens and closes no more than its lexemes do. -/
private theorem within_step (m : Machine) (lexeme : Placed) :
    Within limit (lexeme.token.depthAfter m.depth) (m.step limit lexeme) := by
  unfold step
  split
  case h_1 outer => exact within_startValue limit outer lexeme
  case h_2 outer htoken =>
    rw [htoken]
    exact within_complete limit _ outer
  case h_3 _ outer _ => exact within_startValue limit (.list [] :: outer) lexeme
  case h_4 items outer htoken =>
    rw [htoken]
    exact Nat.le_refl _
  case h_5 items outer htoken =>
    rw [htoken]
    exact within_complete limit _ outer
  case h_6 => exact trivial
  case h_7 outer htoken =>
    rw [htoken]
    exact within_complete limit _ outer
  case h_8 _ outer _ => exact within_startName limit [] outer lexeme
  case h_9 _ fields outer => exact within_startName limit fields outer lexeme
  case h_10 fields name outer htoken =>
    rw [htoken]
    exact Nat.le_refl _
  case h_11 => exact trivial
  case h_12 fields outer htoken =>
    rw [htoken]
    exact Nat.le_refl _
  case h_13 fields outer htoken =>
    rw [htoken]
    exact within_complete limit _ outer
  case h_14 => exact trivial
  case h_15 => exact trivial

variable {limit : Nat}

private theorem longNumeral_of_startValue {outer : List Frame} {lexeme : Placed} {n : Nat}
    (h : startValue limit outer lexeme = .error (.longNumeral n)) : lexeme.token = .longNumeral n := by
  have henter (inObject : Bool) : enter limit inObject outer ≠ .error (.longNumeral n) := by
    unfold enter
    split_ifs <;> exact nofun
  obtain ⟨token, rest⟩ := lexeme
  cases token with
  | openList => exact absurd h (henter false)
  | openObject => exact absurd h (henter true)
  | longNumeral digits =>
    cases h
    rfl
  | _ => cases h

private theorem startName_ne_longNumeral (fields : Fields) (outer : List Frame) (lexeme : Placed)
    (n : Nat) :
    startName fields outer lexeme ≠ .error (.longNumeral n) := by
  unfold startName
  split <;> exact nofun

private theorem longNumeral_of_step {m : Machine} {lexeme : Placed} {n : Nat}
    (h : m.step limit lexeme = .error (.longNumeral n)) : lexeme.token = .longNumeral n := by
  unfold step at h
  split at h
  case h_1 => exact longNumeral_of_startValue h
  case h_3 => exact longNumeral_of_startValue h
  case h_8 => exact absurd h (startName_ne_longNumeral _ _ _ _)
  case h_9 => exact absurd h (startName_ne_longNumeral _ _ _ _)
  all_goals cases h

/-- A run that is refused for its nesting has met more open lists and objects than the limit. -/
private theorem limit_lt_of_run {m : Machine} {row : List Placed} {inObject : Bool}
    (h : m.run limit row = .error (.tooDeep inObject)) : limit < deepest m.depth row := by
  induction row generalizing m with
  | nil => cases m <;> cases h
  | cons lexeme later ih =>
    have hwithin := within_step limit m lexeme
    rw [run_cons] at h
    refine lt_of_lt_of_le ?_ (Nat.le_max_right _ _)
    cases hstep : m.step limit lexeme with
    | ok next =>
      rw [hstep] at h hwithin
      exact (ih h).trans_le (deepest_mono hwithin later)
    | error stop =>
      rw [hstep] at h hwithin
      cases h
      exact lt_of_lt_of_le hwithin (le_deepest _ later)

private theorem exists_longNumeral_of_run {m : Machine} {row : List Placed} {n : Nat}
    (h : m.run limit row = .error (.longNumeral n)) : ∃ placed ∈ row, placed.token = .longNumeral n := by
  induction row generalizing m with
  | nil => cases m <;> cases h
  | cons lexeme later ih =>
    rw [run_cons] at h
    cases hstep : m.step limit lexeme with
    | ok next =>
      rw [hstep] at h
      obtain ⟨placed, hmem, htoken⟩ := ih h
      exact ⟨placed, List.mem_cons_of_mem _ hmem, htoken⟩
    | error stop =>
      rw [hstep] at h
      cases h
      exact ⟨lexeme, List.mem_cons_self, longNumeral_of_step hstep⟩

end Machine

/-- A text that is refused for its nesting is nested deeper than the limit. -/
theorem limit_lt_of_readUpTo {limit : Nat} {s : Text} {inObject : Bool}
    (h : readUpTo limit s = .error (.tooDeep inObject)) : limit < nesting s := by
  unfold readUpTo at h
  split at h
  · cases h
  · exact Machine.limit_lt_of_run h

private theorem nesting_le_countP (s : Text) : nesting s ≤ s.countP isBracket :=
  (deepest_le_countP 0 (lexemes s)).trans ((Nat.zero_add _).trans_le (countP_opens_lexemes s))

/-- A text with short rows of digits and no more brackets than the limit is read as JSON, or has a
problem. -/
theorem exists_decode_of_plain {limit : Nat} {s : Text} (hruns : Version.HasShortRuns s)
    (hbrackets : s.countP isBracket ≤ limit) : ∃ read, decode limit s = .ok read := by
  have hrun (stop : Stop) (h : readUpTo limit s = .error stop) : stop.crash? = none := by
    cases stop with
    | problem what rest => rfl
    | longNumeral n =>
      unfold readUpTo at h
      split at h
      · cases h
      · obtain ⟨run, hinfix, hdigits, hlong⟩ := hasLongRun_of_lexeme (Machine.exists_longNumeral_of_run h)
        exact absurd (hruns run hinfix hdigits) (Nat.not_le_of_lt hlong)
    | tooDeep inObject =>
      exact absurd (limit_lt_of_readUpTo h) (Nat.not_lt_of_le ((nesting_le_countP s).trans hbrackets))
  have hdecode := decode_eq limit s
  cases hread : readUpTo limit s with
  | ok value =>
    rw [hread] at hdecode
    obtain ⟨read, hread, _⟩ := map_eq_ok.mp hdecode
    exact ⟨read, hread⟩
  | error stop =>
    rw [hread, Except.mapError, hrun stop hread] at hdecode
    obtain ⟨read, hread, _⟩ := map_eq_ok.mp hdecode
    exact ⟨read, hread⟩

end CrateGuard.Json
