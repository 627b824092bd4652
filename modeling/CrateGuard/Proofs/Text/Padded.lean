import Mathlib.Algebra.Group.Nat.Defs
import CrateGuard.Proofs.Text.Numerals
import CrateGuard.Proofs.Text.Order

/-! Numbers of a fixed width. Written with leading zeros to the same width, numbers stand in the
order of texts as they stand in that of numbers, and what is written after them counts if they are
the same. A number has one row of ASCII digits of a width. -/

namespace CrateGuard

/-- An order that is decided by leading places, and by what follows them if they are the same. -/
theorem compare_eq_then {a b x y : Nat} {rest : Ordering} (hlt : a < b → x < y)
    (hgt : b < a → y < x)
    (heq : a = b → compare x y = rest) : compare x y = (compare a b).then rest := by
  rcases Nat.lt_trichotomy a b with h | h | h
  · rw [Nat.compare_eq_lt.mpr h, Nat.compare_eq_lt.mpr (hlt h), Ordering.lt_then]
  · rw [Nat.compare_eq_eq.mpr h, heq h, Ordering.eq_then]
  · rw [Nat.compare_eq_gt.mpr h, Nat.compare_eq_gt.mpr (hgt h), Ordering.gt_then]

theorem compare_mul_add {base a b x y : Nat} (hx : x < base) (hy : y < base) :
    compare (a * base + x) (b * base + y) = (compare a b).then (compare x y) := by
  have hless {c d u v : Nat} (hu : u < base) (h : c < d) : c * base + u < d * base + v := by
    have := Nat.mul_le_mul_right base (Nat.succ_le_of_lt h)
    rw [Nat.succ_mul] at this
    omega
  refine compare_eq_then (hless hx) (hless hy) ?_
  rintro rfl
  exact compare_add_left _ _ _

theorem compare_div_mod {base : Nat} (h : 0 < base) (a b : Nat) :
    compare a b = (compare (a / base) (b / base)).then (compare (a % base) (b % base)) := by
  rw [← compare_mul_add (Nat.mod_lt a h) (Nat.mod_lt b h), Nat.div_add_mod', Nat.div_add_mod']

namespace Text

theorem isAsciiDigit_bounds {c : CodePoint} (h : isAsciiDigit c = true) :
    48 ≤ c.code ∧ c.code ≤ 57 := by
  simpa only [isAsciiDigit, Bool.and_eq_true, decide_eq_true_eq] using h

/-- Rows of digits of one length stand as the numbers that they write, if the same was read before
them. -/
private theorem compare_foldl_digits {s t : Text} (hs : ∀ c ∈ s, isAsciiDigit c = true)
    (ht : ∀ c ∈ t, isAsciiDigit c = true)
    (hlength : s.length = t.length) (a b : Nat) :
    compare ((s.map fun c => c.code - 48).foldl (fun total value => total * 10 + value) a)
        ((t.map fun c => c.code - 48).foldl (fun total value => total * 10 + value) b) =
      (compare a b).then (compare s t) := by
  -- along both rows at once, for any numbers before them, since each place takes these ten times
  induction s generalizing t a b with
  | nil =>
    cases t with
    | nil => exact Ordering.then_eq.symm
    | cons d later => cases hlength
  | cons c rest ih =>
    cases t with
    | nil => cases hlength
    | cons d later =>
      obtain ⟨hc, hrest⟩ := List.forall_mem_cons.mp hs
      obtain ⟨hd, hlater⟩ := List.forall_mem_cons.mp ht
      have hcbounds := isAsciiDigit_bounds hc
      have hdbounds := isAsciiDigit_bounds hd
      have hplaces : compare (c.code - 48) (d.code - 48) = compare c d := by
        change _ = compare c.code d.code
        rw [← compare_add_left 48, Nat.add_sub_cancel' hcbounds.1, Nat.add_sub_cancel' hdbounds.1]
      rw [List.map_cons, List.map_cons, List.foldl_cons, List.foldl_cons, ih hrest hlater (Nat.succ.inj hlength),
        compare_mul_add (by omega) (by omega), hplaces, List.compare_cons_cons, Ordering.then_assoc]

private theorem compare_asciiValue {s t : Text} (hs : ∀ c ∈ s, isAsciiDigit c = true)
    (ht : ∀ c ∈ t, isAsciiDigit c = true)
    (hlength : s.length = t.length) : compare (asciiValue s) (asciiValue t) = compare s t :=
  compare_foldl_digits hs ht hlength 0 0

private theorem asciiValue_replicate_append (count : Nat) (s : Text) :
    asciiValue (List.replicate count (.char '0') ++ s) = asciiValue s := by
  induction count with
  | zero => rfl
  | succ count ih => exact ih

@[simp] theorem asciiValue_padded (width value : Nat) : asciiValue (padded width value) = value :=
  (asciiValue_replicate_append _ _).trans (asciiValue_ofString_toString value)

theorem length_padded {width value : Nat} (hwidth : 0 < width) (h : value < 10 ^ width) :
    (padded width value).length = width := by
  have hdigits := (Nat.length_toDigits_le_iff (by decide) hwidth).mpr h
  rw [padded, List.length_append, List.length_replicate, ofString_toString, List.length_map]
  exact Nat.sub_add_cancel hdigits

/-- Texts that begin with parts of one length stand as these do, or else as what follows them. -/
theorem compare_append_of_length {s t : Text} (h : s.length = t.length) (u v : Text) :
    compare (s ++ u) (t ++ v) = (compare s t).then (compare u v) := by
  induction s generalizing t with
  | nil =>
    cases t with
    | nil => rfl
    | cons d later => cases h
  | cons c rest ih =>
    cases t with
    | nil => cases h
    | cons d later =>
      rw [List.cons_append, List.cons_append, List.compare_cons_cons, List.compare_cons_cons, ih (Nat.succ.inj h),
        Ordering.then_assoc]

theorem compare_padded_append {width a b : Nat} (hwidth : 0 < width) (ha : a < 10 ^ width)
    (hb : b < 10 ^ width)
    (u v : Text) : compare (padded width a ++ u) (padded width b ++ v) = (compare a b).then (compare u v) := by
  have hlength : (padded width a).length = (padded width b).length := by
    rw [length_padded hwidth ha, length_padded hwidth hb]
  rw [compare_append_of_length hlength,
    ← compare_asciiValue isAsciiDigit_of_mem_padded isAsciiDigit_of_mem_padded hlength,
    asciiValue_padded, asciiValue_padded]

/-- There is one row of digits of a width for a number. -/
theorem eq_padded {s : Text} {width value : Nat} (hdigits : ∀ c ∈ s, isAsciiDigit c = true)
    (hwidth : 0 < width)
    (hlength : s.length = width) (hvalue : asciiValue s = value) (hbound : value < 10 ^ width) :
    s = padded width value := by
  have hsame := compare_asciiValue (t := padded width value) hdigits isAsciiDigit_of_mem_padded
    (hlength.trans (length_padded hwidth hbound).symm)
  rw [asciiValue_padded, hvalue, Nat.compare_eq_eq.mpr rfl] at hsame
  exact Std.LawfulEqOrd.eq_of_compare hsame.symm

theorem code_asciiDigit : ∀ value < 10, (asciiDigit value).code = 48 + value := by
  decide

private theorem isAsciiDigit_asciiDigit : ∀ value < 10, isAsciiDigit (asciiDigit value) = true := by
  decide

theorem asciiDigit_code {c : CodePoint} (h : isAsciiDigit c = true) :
    asciiDigit (c.code - 48) = c := by
  have hbounds := isAsciiDigit_bounds h
  apply CodePoint.code_inj.mp
  rw [code_asciiDigit _ (by omega)]
  omega

theorem ofString_toString_of_lt {value : Nat} (h : value < 10) :
    ofString (toString value) = [asciiDigit value] := by
  have hdigit : ∀ value < 10, Nat.digitChar value = Char.ofNat (48 + value) := by decide
  rw [ofString_toString, Nat.toDigits_of_lt_base h, hdigit value h]
  rfl

theorem padded_two {value : Nat} (h : value < 100) :
    padded 2 value = [asciiDigit (value / 10), asciiDigit (value % 10)] := by
  symm
  apply eq_padded
  · simp only [List.forall_mem_cons]
    exact ⟨isAsciiDigit_asciiDigit _ (by omega), isAsciiDigit_asciiDigit _ (by omega), nofun⟩
  · decide
  · rfl
  · simp only [asciiValue, digitsValue, List.map_cons, List.map_nil, List.foldl_cons, List.foldl_nil]
    rw [code_asciiDigit _ (by omega), code_asciiDigit _ (by omega)]
    omega
  · exact h

theorem decimalValue?_lt {c : CodePoint} {value : Nat} (h : decimalValue? c = some value) :
    value < 10 := by
  obtain ⟨base, hbase, rfl⟩ := Option.map_eq_some_iff.mp h
  have hrange := List.find?_some hbase
  simp only [Bool.and_eq_true, decide_eq_true_eq] at hrange
  omega

theorem exists_decimalValue? {s : Text} {values : List Nat}
    (h : s.mapM decimalValue? = some values) :
    ∀ c ∈ s, ∃ value, decimalValue? c = some value := by
  induction s generalizing values with
  | nil => exact nofun
  | cons c rest ih =>
    rw [List.mapM_cons] at h
    obtain ⟨value, hvalue, h⟩ := Option.bind_eq_some_iff.mp h
    obtain ⟨later, hlater, _⟩ := Option.bind_eq_some_iff.mp h
    exact List.forall_mem_cons.mpr ⟨⟨value, hvalue⟩, ih hlater⟩

theorem decimalNumber?_of_digits {s : Text} (h : ∀ c ∈ s, isAsciiDigit c = true) :
    decimalNumber? s = some (asciiValue s) := by
  have hascii : IsAscii s := fun c hc => by
    have := isAsciiDigit_bounds (h c hc)
    omega
  rw [decimalNumber?_ascii hascii, if_pos (List.all_eq_true.mpr h)]

/-- Two digits need no zero before them. -/
theorem padded_two_of_le {value : Nat} (h : 10 ≤ value) :
    padded 2 value = ofString (toString value) := by
  have hlong : ¬(Nat.toDigits 10 value).length ≤ 1 := by
    rw [Nat.length_toDigits_le_iff (by decide) (by decide)]
    omega
  have hzeros : 2 - (ofString (toString value)).length = 0 := by
    rw [ofString_toString, List.length_map]
    omega
  rw [padded, hzeros]
  rfl

end Text

end CrateGuard
