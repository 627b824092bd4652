import Mathlib.Tactic.SplitIfs
import CrateGuard.Text.Digit

/-! Numerals in ASCII. Among the ASCII code points the digits are the ten usual ones, so a row of
them writes a number, and that number is written back without leading zeros. -/

namespace CrateGuard.Text

/-- A row without its leading zeros; the last code point stays. -/
def trimZeros : Text → Text
  | [] => []
  | [c] => [c]
  | c :: d :: rest => if c = '0' then trimZeros (d :: rest) else c :: d :: rest

def isAsciiNumeral (s : Text) : Bool :=
  !s.isEmpty && s.all isAsciiDigit

def IsAscii (s : Text) : Prop :=
  ∀ c ∈ s, c.code < 128

theorem isAsciiNumeral_iff {s : Text} :
    isAsciiNumeral s = true ↔ s ≠ [] ∧ ∀ c ∈ s, isAsciiDigit c = true := by
  simp [isAsciiNumeral]

private theorem no_ascii_in_other_scripts {n : Nat} (h : n < 128) :
    zeroDigits.tail.find? (fun base => decide (base ≤ n) && decide (n ≤ base + 9)) = none := by
  have hbases : ∀ base ∈ zeroDigits.tail, 128 ≤ base := by decide
  rw [List.find?_eq_none]
  intro base hbase
  have := hbases base hbase
  simp only [Bool.and_eq_true, decide_eq_true_eq]
  omega

theorem decimalValue?_ascii {c : CodePoint} (h : c.code < 128) :
    decimalValue? c = if isAsciiDigit c then some (c.code - 48) else none := by
  have htail := no_ascii_in_other_scripts h
  rw [decimalValue?, show zeroDigits = 48 :: zeroDigits.tail from rfl, List.find?_cons, isAsciiDigit, htail]
  cases hdigit : decide (48 ≤ c.code) && decide (c.code ≤ 48 + 9) with
  | true => simp at hdigit ⊢
  | false => simp at hdigit ⊢

private theorem isDecimal_ascii {c : CodePoint} (h : c.code < 128) :
    isDecimal c = isAsciiDigit c := by
  rw [isDecimal, decimalValue?_ascii h]
  cases isAsciiDigit c <;> rfl

private theorem isDigitLike_ascii {c : CodePoint} (h : c.code < 128) :
    isDigitLike c = isAsciiDigit c := by
  have hranges : ∀ r ∈ ornamentalDigits, 128 ≤ r.1 := by decide
  have hnone : ornamentalDigits.any (fun r => decide (r.1 ≤ c.code) && decide (c.code ≤ r.2)) = false := by
    rw [List.any_eq_false]
    intro r hr
    have := hranges r hr
    simp only [Bool.and_eq_true, decide_eq_true_eq]
    omega
  rw [isDigitLike, isDecimal_ascii h, hnone, Bool.or_false]

theorem isNumeral_ascii {s : Text} (h : IsAscii s) : isNumeral s = isAsciiNumeral s := by
  rw [isNumeral, isAsciiNumeral]
  congr 1
  rw [Bool.eq_iff_iff, List.all_eq_true, List.all_eq_true]
  apply forall₂_congr
  intro c hc
  rw [isDigitLike_ascii (h c hc)]

private theorem mapM_decimalValue?_ascii {s : Text} (h : IsAscii s) :
    s.mapM decimalValue? = if s.all isAsciiDigit then some (s.map fun c => c.code - 48) else none := by
  induction s with
  | nil => rfl
  | cons c rest ih =>
    have hrest := ih fun d hd => h d (List.mem_cons_of_mem c hd)
    rw [List.mapM_cons, decimalValue?_ascii (h c List.mem_cons_self), hrest]
    cases hc : isAsciiDigit c with
    | false => simp [hc]
    | true =>
      cases hall : rest.all isAsciiDigit <;> simp [hc, hall]

theorem decimalNumber?_ascii {s : Text} (h : IsAscii s) :
    decimalNumber? s = if s.all isAsciiDigit then some (asciiValue s) else none := by
  rw [decimalNumber?, mapM_decimalValue?_ascii h]
  split_ifs <;> rfl

private theorem digitChar_of_isAsciiDigit {c : CodePoint} (h : isAsciiDigit c = true) :
    CodePoint.char (Nat.digitChar (c.code - 48)) = c := by
  simp only [isAsciiDigit, Bool.and_eq_true, decide_eq_true_eq] at h
  cases c with
  | half offset => simp [CodePoint.code] at h; omega
  | char c =>
    simp only [CodePoint.code] at h ⊢
    congr 1
    apply Char.toNat_inj.mp
    rw [Nat.toNat_digitChar_of_lt_ten (by omega)]
    omega

private theorem toDigits_foldl {total : Nat} (hpos : 0 < total) {values : List Nat}
    (h : ∀ value ∈ values, value < 10) :
    Nat.toDigits 10 (values.foldl (fun total value => total * 10 + value) total) =
      Nat.toDigits 10 total ++ values.map Nat.digitChar := by
  induction values generalizing total with
  | nil => simp
  | cons value rest ih =>
    have hvalue := h value List.mem_cons_self
    rw [List.foldl_cons, ih (by omega) fun other hother => h other (List.mem_cons_of_mem _ hother)]
    rw [Nat.mul_comm, ← Nat.toDigits_append_toDigits (by decide) hpos hvalue]
    rw [Nat.toDigits_of_lt_base hvalue, List.map_cons, List.append_assoc, List.singleton_append]

private theorem value_lt_ten {s : Text} (h : ∀ c ∈ s, isAsciiDigit c = true) :
    ∀ value ∈ s.map fun c => c.code - 48, value < 10 := by
  intro value hvalue
  obtain ⟨c, hc, rfl⟩ := List.mem_map.mp hvalue
  have := h c hc
  simp only [isAsciiDigit, Bool.and_eq_true, decide_eq_true_eq] at this
  omega

private theorem map_digitChar {s : Text} (h : ∀ c ∈ s, isAsciiDigit c = true) :
    ((s.map fun c => c.code - 48).map Nat.digitChar).map CodePoint.char = s := by
  rw [List.map_map, List.map_map]
  have hsame := List.map_congr_left (g := id) fun c hc => digitChar_of_isAsciiDigit (h c hc)
  exact hsame.trans (List.map_id s)

theorem ofString_toString (n : Nat) : ofString (toString n) = (Nat.toDigits 10 n).map .char := by
  rw [ofString, Nat.toString_eq_repr, Nat.toList_repr]

theorem isAsciiNumeral_ofString_toString (n : Nat) :
    isAsciiNumeral (ofString (toString n)) = true := by
  rw [ofString_toString, isAsciiNumeral_iff]
  refine ⟨by simp, ?_⟩
  intro c hc
  obtain ⟨digit, hmem, rfl⟩ := List.mem_map.mp hc
  have hdigit := Nat.isDigit_of_mem_toDigits (by decide) (by decide) hmem
  simp only [Char.isDigit, ge_iff_le, Bool.and_eq_true, decide_eq_true_eq, UInt32.le_iff_toNat_le] at hdigit
  rw [isAsciiDigit, Bool.and_eq_true, decide_eq_true_eq, decide_eq_true_eq]
  exact hdigit

theorem isAsciiDigit_of_mem_padded {width value : Nat} :
    ∀ c ∈ padded width value, isAsciiDigit c = true := by
  intro c hc
  rw [padded, List.mem_append] at hc
  rcases hc with hc | hc
  · rw [(List.mem_replicate.mp hc).2]
    rfl
  · exact (isAsciiNumeral_iff.mp (isAsciiNumeral_ofString_toString value)).2 c hc

/-- A number that is written is read again. -/
theorem asciiValue_ofString_toString (n : Nat) : asciiValue (ofString (toString n)) = n := by
  have hdigits := Nat.ofDigitChars_toDigits (b := 10) (n := n) (by decide) (by decide)
  rw [Nat.ofDigitChars_eq_foldl] at hdigits
  rw [ofString_toString, asciiValue, digitsValue, List.map_map, List.foldl_map]
  simpa [Nat.mul_comm, CodePoint.code] using hdigits

/-- A numeral that is read and written back loses its leading zeros and nothing else. -/
theorem ofString_toString_asciiValue {s : Text} (h : isAsciiNumeral s = true) :
    ofString (toString (asciiValue s)) = trimZeros s := by
  obtain ⟨hne, hdigits⟩ := isAsciiNumeral_iff.mp h
  rw [ofString_toString]
  induction s using trimZeros.induct with
  | case1 => contradiction
  | case2 c =>
    have hvalue := value_lt_ten hdigits (c.code - 48) (by simp)
    rw [asciiValue, digitsValue, List.map_singleton, List.foldl_cons, List.foldl_nil, Nat.zero_mul,
      Nat.zero_add, Nat.toDigits_of_lt_base hvalue, List.map_singleton, trimZeros,
      digitChar_of_isAsciiDigit (hdigits c List.mem_cons_self)]
  | case3 d rest ih =>
    have hrest : ∀ e ∈ d :: rest, isAsciiDigit e = true := fun e he => hdigits e (List.mem_cons_of_mem _ he)
    rw [trimZeros, if_pos rfl, ← ih (isAsciiNumeral_iff.mpr ⟨by simp, hrest⟩) (by simp) hrest]
    rfl
  | case4 c d rest hc =>
    have hdigit := hdigits c List.mem_cons_self
    have hpos : 0 < c.code - 48 := by
      apply Nat.pos_of_ne_zero
      intro hzero
      have hchar := digitChar_of_isAsciiDigit hdigit
      rw [hzero] at hchar
      exact hc hchar.symm
    have hvalue := value_lt_ten hdigits (c.code - 48) (by simp)
    have hrest : ∀ e ∈ d :: rest, isAsciiDigit e = true := fun e he => hdigits e (List.mem_cons_of_mem _ he)
    rw [trimZeros, if_neg hc, asciiValue, digitsValue, List.map_cons, List.foldl_cons, Nat.zero_mul,
      Nat.zero_add, toDigits_foldl hpos (value_lt_ten hrest), Nat.toDigits_of_lt_base hvalue,
      List.singleton_append, List.map_cons, digitChar_of_isAsciiDigit hdigit, map_digitChar hrest]

theorem asciiValue_trimZeros (s : Text) : asciiValue (trimZeros s) = asciiValue s := by
  induction s using trimZeros.induct with
  | case1 => rfl
  | case2 c => rfl
  | case3 d rest ih => rw [trimZeros, if_pos rfl, ih]; rfl
  | case4 c d rest hc => rw [trimZeros, if_neg hc]

theorem trimZeros_sublist (s : Text) : (trimZeros s).Sublist s := by
  induction s using trimZeros.induct with
  | case1 => exact List.Sublist.refl _
  | case2 c => exact List.Sublist.refl _
  | case3 d rest ih => rw [trimZeros, if_pos rfl]; exact ih.cons _
  | case4 c d rest hc => simp [trimZeros, hc]

theorem trimZeros_ne_nil {s : Text} (h : s ≠ []) : trimZeros s ≠ [] := by
  induction s using trimZeros.induct with
  | case1 => contradiction
  | case2 c => simp [trimZeros]
  | case3 d rest ih => rw [trimZeros, if_pos rfl]; exact ih (by simp)
  | case4 c d rest hc => rw [trimZeros, if_neg hc]; simp

theorem isAsciiNumeral_trimZeros {s : Text} (h : isAsciiNumeral s = true) :
    isAsciiNumeral (trimZeros s) = true := by
  obtain ⟨hne, hdigits⟩ := isAsciiNumeral_iff.mp h
  exact isAsciiNumeral_iff.mpr
    ⟨trimZeros_ne_nil hne, fun c hc => hdigits c ((trimZeros_sublist s).subset hc)⟩

/-- Numerals write the same number if and only if they agree but for leading zeros. -/
theorem asciiValue_eq_iff {s t : Text} (hs : isAsciiNumeral s = true)
    (ht : isAsciiNumeral t = true) :
    asciiValue s = asciiValue t ↔ trimZeros s = trimZeros t := by
  constructor
  · intro h
    rw [← ofString_toString_asciiValue hs, h, ofString_toString_asciiValue ht]
  · intro h
    rw [← asciiValue_trimZeros s, h, asciiValue_trimZeros]

end CrateGuard.Text
