import Mathlib.Tactic.IntervalCases
import CrateGuard.Calendar.DateText
import CrateGuard.Proofs.Calendar.DayNumber
import CrateGuard.Proofs.Text.Padded

/-! Which texts are read as days. A day is read in its written form and in a few others: month and
day may lack their leading zero, a space may stand in the place of that of the day, and the digits
of the year and the second one of a day in the tens or twenties may be of any script. Of ten code
points that are ASCII digits and hyphens only the written form is read. -/

namespace CrateGuard

namespace Date

/-- The ways in which a month is written: with two digits or as few as it takes. -/
inductive WritesMonth (month : Nat) : Text → Prop
  | padded : WritesMonth month (Text.padded 2 month)
  | bare : WritesMonth month (toString month : String)

/-- The ways in which a day of a month is written: those of a month, with a space before one digit,
and in the tens and twenties with a second digit of any script. -/
inductive WritesDay (day : Nat) : Text → Prop
  | padded : WritesDay day (Text.padded 2 day)
  | bare : WritesDay day (toString day : String)
  | spaced (h : day < 10) : WritesDay day (.char ' ' :: Text.ofString (toString day))
  | otherScript {ones : CodePoint} (hten : 10 ≤ day) (hthirty : day < 30)
      (hones : Text.decimalValue? ones = some (day % 10)) : WritesDay day [Text.asciiDigit (day / 10), ones]

/-- A text that writes a day: four digits of any script for the year, the month and the day of the
month. -/
inductive Writes : Text → Date → Prop
  | intro {year month day : Text} {d : Date} (hlength : year.length = 4)
      (hyear : Text.decimalNumber? year = some d.year)
      (hmonth : WritesMonth d.month month) (hday : WritesDay d.day day) :
      Writes (year ++ .char '-' :: (month ++ .char '-' :: day)) d

def IsPlain (s : Text) : Prop :=
  s.length = 10 ∧ ∀ c ∈ s, Text.isAsciiDigit c = true ∨ c = .char '-'

instance (s : Text) : Decidable (IsPlain s) := inferInstanceAs (Decidable (_ ∧ _))

theorem daysInMonth_le (year month : Nat) : daysInMonth year month ≤ 31 := by
  unfold daysInMonth
  split_ifs <;> decide

private theorem of?_eq_some_iff {year month day : Nat} {d : Date} :
    of? year month day = some d ↔ year = d.year ∧ month = d.month ∧ day = d.day := by
  constructor
  · intro h
    unfold of? at h
    split at h
    next =>
      cases h
      exact ⟨rfl, rfl, rfl⟩
    next => cases h
  · rintro ⟨rfl, rfl, rfl⟩
    exact dif_pos d.valid

private theorem takeOneDigit_eq_some_iff {s rest : Text} {value : Nat} :
    takeOneDigit s = some (value, rest) ↔ (1 ≤ value ∧ value ≤ 9) ∧ s = Text.asciiDigit value :: rest := by
  constructor
  · intro h
    cases s with
    | nil => cases h
    | cons c later =>
      rw [takeOneDigit] at h
      split at h
      next hc =>
        cases h
        simp only [isCountingDigit, Bool.and_eq_true, decide_eq_true_eq] at hc
        have hdigit : Text.isAsciiDigit c = true := by
          simp only [Text.isAsciiDigit, Bool.and_eq_true, decide_eq_true_eq]
          omega
        refine ⟨?_, ?_⟩
        · rw [digitOf]
          omega
        · rw [digitOf, Text.asciiDigit_code hdigit]
      next => cases h
  · rintro ⟨hbounds, rfl⟩
    have hcode := Text.code_asciiDigit value (by omega)
    have hcounting : isCountingDigit (Text.asciiDigit value) = true := by
      simp only [isCountingDigit, Bool.and_eq_true, decide_eq_true_eq]
      omega
    rw [takeOneDigit, if_pos hcounting, digitOf, hcode, Nat.add_sub_cancel_left]

private theorem eq_append_of_takeOneDigit {s rest : Text} {value : Nat}
    (h : takeOneDigit s = some (value, rest)) :
    s = Text.ofString (toString value) ++ rest ∧ value < 10 := by
  obtain ⟨hbounds, rfl⟩ := takeOneDigit_eq_some_iff.mp h
  rw [Text.ofString_toString_of_lt (by omega)]
  exact ⟨rfl, by omega⟩

private theorem zero_append_of_takeOneDigit {s rest : Text} {value : Nat}
    (h : takeOneDigit s = some (value, rest)) :
    .char '0' :: s = Text.padded 2 value ++ rest := by
  obtain ⟨hbounds, rfl⟩ := takeOneDigit_eq_some_iff.mp h
  rw [Text.padded_two (by omega), Nat.div_eq_of_lt (by omega), Nat.mod_eq_of_lt (by omega)]
  rfl

private theorem writesMonth_of_takeMonth {s rest : Text} {month : Nat}
    (h : takeMonth s = some (month, rest)) :
    ∃ written, WritesMonth month written ∧ s = written ++ rest := by
  unfold takeMonth at h
  split at h
  next c later =>
    split at h
    next hc =>
      cases h
      refine ⟨_, .padded, ?_⟩
      simp only [Bool.or_eq_true, decide_eq_true_eq] at hc
      rcases hc with (rfl | rfl) | rfl
      all_goals rfl
    next => exact ⟨_, .bare, (eq_append_of_takeOneDigit h).1⟩
  next later => exact ⟨_, .padded, zero_append_of_takeOneDigit h⟩
  next => exact ⟨_, .bare, (eq_append_of_takeOneDigit h).1⟩

private theorem writesDay_of_tens {tens value : Nat} {ones : CodePoint} (h : tens = 1 ∨ tens = 2)
    (hones : Text.decimalValue? ones = some value) : WritesDay (10 * tens + value) [Text.asciiDigit tens, ones] := by
  have hless := Text.decimalValue?_lt hones
  have hmod : (10 * tens + value) % 10 = value := by omega
  have hdiv : (10 * tens + value) / 10 = tens := by omega
  have hwrites : WritesDay (10 * tens + value) [Text.asciiDigit ((10 * tens + value) / 10), ones] :=
    .otherScript (by omega) (by omega) (hmod.symm ▸ hones)
  rwa [hdiv] at hwrites

private theorem writesDay_of_takeDay {s rest : Text} {day : Nat}
    (h : takeDay s = some (day, rest)) :
    ∃ written, WritesDay day written ∧ s = written ++ rest := by
  unfold takeDay at h
  split at h
  next c later =>
    split at h
    next hc =>
      cases h
      refine ⟨_, .padded, ?_⟩
      simp only [Bool.or_eq_true, decide_eq_true_eq] at hc
      rcases hc with rfl | rfl
      all_goals rfl
    next => exact ⟨_, .bare, (eq_append_of_takeOneDigit h).1⟩
  next later => exact ⟨_, .padded, zero_append_of_takeOneDigit h⟩
  next later =>
    obtain ⟨rfl, hless⟩ := eq_append_of_takeOneDigit h
    exact ⟨_, .spaced hless, rfl⟩
  next tens c later _ _ _ =>
    split at h
    next htens =>
      split at h
      next ones hones =>
        cases h
        simp only [Bool.or_eq_true, decide_eq_true_eq] at htens
        rcases htens with rfl | rfl
        · exact ⟨_, writesDay_of_tens (.inl rfl) hones, rfl⟩
        · exact ⟨_, writesDay_of_tens (.inr rfl) hones, rfl⟩
      next => exact ⟨_, .bare, (eq_append_of_takeOneDigit h).1⟩
    next => exact ⟨_, .bare, (eq_append_of_takeOneDigit h).1⟩
  next => exact ⟨_, .bare, (eq_append_of_takeOneDigit h).1⟩

private theorem takeMonth_of_writesMonth {month : Nat} {written : Text}
    (hmonth : 1 ≤ month ∧ month ≤ 12)
    (h : WritesMonth month written) (rest : Text) :
    takeMonth (written ++ .char '-' :: rest) = some (month, .char '-' :: rest) := by
  obtain ⟨hone, htwelve⟩ := hmonth
  cases h with
  | padded => interval_cases month <;> rfl
  | bare => interval_cases month <;> rfl

private theorem takeDay_of_writesDay {day : Nat} {written : Text} (hday : 1 ≤ day ∧ day ≤ 31)
    (h : WritesDay day written) :
    takeDay written = some (day, []) := by
  obtain ⟨hone, hlast⟩ := hday
  cases h with
  | padded => interval_cases day <;> rfl
  | bare => interval_cases day <;> rfl
  | spaced h => interval_cases day <;> rfl
  | @otherScript ones hten hthirty hones =>
    have hread (tens : CodePoint) (h : tens = .char '1' ∨ tens = .char '2') :
        takeDay [tens, ones] = some (10 * digitOf tens + day % 10, []) := by
      rcases h with rfl | rfl
      · simp [takeDay, hones]
      · simp [takeDay, hones]
    have htens : day / 10 = 1 ∨ day / 10 = 2 := by omega
    have hdigit : digitOf (Text.asciiDigit (day / 10)) = day / 10 := by
      rw [digitOf, Text.code_asciiDigit _ (by omega), Nat.add_sub_cancel_left]
    rw [hread _ (htens.imp (congrArg Text.asciiDigit) (congrArg Text.asciiDigit)), hdigit, Nat.div_add_mod]

private theorem writes_of_read? {s : Text} {d : Date} (h : read? s = some d) : Writes s d := by
  -- what each part takes is a writing of it, and what it leaves begins with the hyphen of the next
  unfold read? at h
  split at h
  next y e a r later =>
    obtain ⟨year, hyear, h⟩ := Option.bind_eq_some_iff.mp h
    obtain ⟨⟨month, afterMonth⟩, hmonth, h⟩ := Option.bind_eq_some_iff.mp h
    split at h
    next month afterMonth hsame =>
      cases hsame
      obtain ⟨⟨day, afterDay⟩, hday, h⟩ := Option.bind_eq_some_iff.mp h
      split at h
      next day hsame =>
        cases hsame
        obtain ⟨rfl, rfl, rfl⟩ := of?_eq_some_iff.mp h
        obtain ⟨_, hwritesMonth, rfl⟩ := writesMonth_of_takeMonth hmonth
        obtain ⟨_, hwritesDay, rfl⟩ := writesDay_of_takeDay hday
        rw [List.append_nil]
        exact @Writes.intro [y, e, a, r] _ _ _ rfl hyear hwritesMonth hwritesDay
      next => cases h
    next => cases h
  next => cases h

private theorem read?_of_writes {s : Text} {d : Date} (h : Writes s d) : read? s = some d := by
  have hbounds := d.bounds
  have hlast := daysInMonth_le d.year d.month
  cases h with
  | @intro year month day _ hlength hyear hmonth hday =>
    have hreadMonth := takeMonth_of_writesMonth hbounds.2.1 hmonth day
    have hreadDay := takeDay_of_writesDay ⟨hbounds.2.2.1, hbounds.2.2.2.trans hlast⟩ hday
    match year, hlength with
    | [y, e, a, r], _ => simp [read?, hyear, hreadMonth, hreadDay, of?_eq_some_iff]

/-- A text is read as a day if and only if it writes the day. -/
private theorem read?_eq_some_iff {s : Text} {d : Date} : read? s = some d ↔ Writes s d :=
  ⟨writes_of_read?, read?_of_writes⟩

theorem length_text (d : Date) : d.text.length = 10 := by
  have hbounds := d.bounds
  have hlast := daysInMonth_le d.year d.month
  simp only [text, List.length_append]
  rw [Text.length_padded (by decide) (by omega), Text.length_padded (by decide) (by omega),
    Text.length_padded (by decide) (by omega)]
  rfl

private theorem isPlain_text (d : Date) : IsPlain d.text := by
  refine ⟨d.length_text, ?_⟩
  intro c hc
  simp only [text, List.mem_append] at hc
  rcases hc with (((hc | hc) | hc) | hc) | hc
  · exact .inl (Text.isAsciiDigit_of_mem_padded c hc)
  · exact .inr (List.mem_singleton.mp hc)
  · exact .inl (Text.isAsciiDigit_of_mem_padded c hc)
  · exact .inr (List.mem_singleton.mp hc)
  · exact .inl (Text.isAsciiDigit_of_mem_padded c hc)

private theorem writes_text (d : Date) : Writes d.text d := by
  have hbounds := d.bounds
  have hyear : Text.decimalNumber? (Text.padded 4 d.year) = some d.year := by
    rw [Text.decimalNumber?_of_digits Text.isAsciiDigit_of_mem_padded, Text.asciiValue_padded]
  have hwrites := Writes.intro (Text.length_padded (by decide) (by omega)) hyear .padded .padded
  simpa [text, Text.ofString] using hwrites

private theorem isAsciiDigit_of_plain {c : CodePoint} {value : Nat}
    (hplain : Text.isAsciiDigit c = true ∨ c = .char '-')
    (h : Text.decimalValue? c = some value) : Text.isAsciiDigit c = true ∧ Text.asciiDigit value = c := by
  rcases hplain with hdigit | rfl
  · have hbounds := Text.isAsciiDigit_bounds hdigit
    rw [Text.decimalValue?_ascii (by omega), if_pos hdigit] at h
    cases h
    exact ⟨hdigit, Text.asciiDigit_code hdigit⟩
  · rw [Text.decimalValue?_ascii (by decide)] at h
    cases h

private theorem WritesMonth.eq_padded_or {month : Nat} {written : Text}
    (h : WritesMonth month written) :
    written = Text.padded 2 month ∨ written.length = 1 := by
  cases h with
  | padded => exact .inl rfl
  | bare =>
    rcases Nat.lt_or_ge month 10 with hless | hmore
    · rw [Text.ofString_toString_of_lt hless]
      exact .inr rfl
    · exact .inl (Text.padded_two_of_le hmore).symm

private theorem WritesDay.eq_padded_or {day : Nat} {written : Text} (h : WritesDay day written)
    (hplain : ∀ c ∈ written, Text.isAsciiDigit c = true ∨ c = .char '-') :
    written = Text.padded 2 day ∨ written.length = 1 := by
  cases h with
  | padded => exact .inl rfl
  | bare => exact WritesMonth.bare.eq_padded_or
  | spaced => exact absurd (hplain (.char ' ') List.mem_cons_self) (by decide)
  | otherScript hten hthirty hones =>
    have hsame := (isAsciiDigit_of_plain (hplain _ (by simp)) hones).2
    rw [Text.padded_two (by omega), hsame]
    exact .inl rfl

private theorem year_eq_padded {year : Text} {value : Nat}
    (hplain : ∀ c ∈ year, Text.isAsciiDigit c = true ∨ c = .char '-')
    (hlength : year.length = 4) (hyear : Text.decimalNumber? year = some value) (hbound : value ≤ 9999) :
    year = Text.padded 4 value := by
  obtain ⟨values, hvalues, _⟩ := Option.map_eq_some_iff.mp hyear
  have hdigits : ∀ c ∈ year, Text.isAsciiDigit c = true := by
    intro c hc
    obtain ⟨place, hplace⟩ := Text.exists_decimalValue? hvalues c hc
    exact (isAsciiDigit_of_plain (hplain c hc) hplace).1
  rw [Text.decimalNumber?_of_digits hdigits, Option.some.injEq] at hyear
  exact Text.eq_padded hdigits (by decide) hlength hyear (by omega)

private theorem Writes.eq_text {s : Text} {d : Date} (h : Writes s d) (hplain : IsPlain s) :
    s = d.text := by
  cases h with
  | @intro year month day _ hlength hyear hmonth hday =>
    obtain ⟨hten, hplain⟩ := hplain
    simp only [List.forall_mem_append, List.forall_mem_cons] at hplain
    obtain ⟨hyearPlain, _, _, _, hdayPlain⟩ := hplain
    simp only [List.length_append, List.length_cons, hlength] at hten
    have hbounds := d.bounds
    have hlast := daysInMonth_le d.year d.month
    have hmonthTwo : (Text.padded 2 d.month).length = 2 := Text.length_padded (by decide) (by omega)
    have hdayTwo : (Text.padded 2 d.day).length = 2 := Text.length_padded (by decide) (by omega)
    -- ten code points leave four for the month and the day of the month, which have two each at
    -- most
    have hboth : month = Text.padded 2 d.month ∧ day = Text.padded 2 d.day := by
      rcases hmonth.eq_padded_or with rfl | hmonthOne
      · rcases hday.eq_padded_or hdayPlain with rfl | hdayOne
        · exact ⟨rfl, rfl⟩
        · omega
      · rcases hday.eq_padded_or hdayPlain with rfl | hdayOne
        · omega
        · omega
    rw [year_eq_padded hyearPlain hlength hyear hbounds.1.2, hboth.1, hboth.2]
    simp [text, Text.ofString]

/-- A text is read as a day if and only if it writes the day. Its written form does, and is the only
plain text that does. -/
theorem reads_exactly_writings (s : Text) (d : Date) :
    (read? s = some d ↔ Writes s d) ∧ read? d.text = some d ∧ (read? s = some d ∧ IsPlain s ↔ s = d.text) := by
  have hself := read?_eq_some_iff.mpr d.writes_text
  refine ⟨read?_eq_some_iff, hself, ?_⟩
  constructor
  · rintro ⟨hread, hplain⟩
    exact (read?_eq_some_iff.mp hread).eq_text hplain
  · intro hsame
    rw [hsame]
    exact ⟨hself, d.isPlain_text⟩

/-- The fifth of January 2024, the year in Arabic-Indic digits. -/
def arabicYear : Text :=
  .char '٢' :: .char '٠' :: .char '٢' :: .char '٤' :: Text.ofString "-01-05"

/-- Other texts are read too: without leading zeros, with a space for one, and in digits of another
script. -/
theorem other_writings_read :
    ∃ d : Date, (read? "2024-1-5" = some d ∧ d.text ≠ "2024-1-5") ∧
      (read? "2024-01- 5" = some d ∧ d.text ≠ "2024-01- 5") ∧ read? arabicYear = some d ∧ d.text ≠ arabicYear := by
  have hother (d : Date) {s : Text} (h : ¬IsPlain s) : d.text ≠ s := fun hsame => h (hsame ▸ d.isPlain_text)
  refine ⟨⟨2024, 1, 5, rfl⟩, ⟨rfl, hother _ ?_⟩, ⟨rfl, hother _ ?_⟩, by decide +kernel, hother _ ?_⟩
  all_goals decide

end Date

end CrateGuard
