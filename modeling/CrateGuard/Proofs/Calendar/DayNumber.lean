import Mathlib.Order.Monotone.Basic
import Mathlib.Tactic.ByContra
import Mathlib.Tactic.SplitIfs
import CrateGuard.Calendar.Date

/-! Day numbers name days. Every number from one up to that of the last day is the number of exactly
one day, and no other number is that of a day. Later days have larger numbers. -/

namespace CrateGuard
namespace Date

private theorem daysBeforeYear_bounds (passed : Nat) :
    400 * daysBeforeYear (passed + 1) ≤ 146097 * passed + 396 ∧
      146097 * passed ≤ 400 * daysBeforeYear (passed + 1) + 699 := by
  simp only [daysBeforeYear, Nat.add_sub_cancel]
  omega

/-- The guess of a year is right after one correction at most. -/
private theorem yearOfDayNumber_bounds {n : Nat} (h : 1 ≤ n) :
    1 ≤ yearOfDayNumber n ∧ daysBeforeYear (yearOfDayNumber n) < n ∧
      n ≤ daysBeforeYear (yearOfDayNumber n + 1) := by
  have hp := Nat.div_add_mod (n * 400) 146097
  have hm := Nat.mod_lt (n * 400) (show 146097 > 0 by decide)
  have h0 := daysBeforeYear_bounds (n * 400 / 146097)
  have h1 := daysBeforeYear_bounds (n * 400 / 146097 + 1)
  have h2 := daysBeforeYear_bounds (n * 400 / 146097 + 1 + 1)
  unfold yearOfDayNumber
  dsimp only
  generalize n * 400 / 146097 = passed at *
  split_ifs with hg hl
  · exact ⟨by omega, hl, by omega⟩
  · exact ⟨by omega, hg, by omega⟩
  · cases passed with
    | zero => exact absurd h (by simp [daysBeforeYear] at hg; omega)
    | succ before =>
      have hb := daysBeforeYear_bounds before
      rw [Nat.add_sub_cancel]
      exact ⟨by omega, by omega, by omega⟩

private theorem isLeapYear_iff (year : Nat) :
    isLeapYear year = true ↔ year % 4 = 0 ∧ (year % 100 ≠ 0 ∨ year % 400 = 0) := by
  simp [isLeapYear]

private theorem daysBeforeYear_succ {year : Nat} (h : 1 ≤ year) :
    daysBeforeYear (year + 1) = daysBeforeYear year + if isLeapYear year then 366 else 365 := by
  obtain ⟨passed, rfl⟩ := Nat.exists_eq_add_of_le' h
  have h4 : (passed + 1) / 4 = _ := Nat.succ_div
  have h100 : (passed + 1) / 100 = _ := Nat.succ_div
  have h400 : (passed + 1) / 400 = _ := Nat.succ_div
  have hq : passed / 100 ≤ passed / 4 := by omega
  simp only [Nat.dvd_iff_mod_eq_zero] at h4 h100 h400
  simp only [daysBeforeYear, Nat.add_sub_cancel, isLeapYear_iff]
  rw [h4, h100, h400]
  split_ifs <;> omega

private theorem daysBeforeYear_mono {a b : Nat} (h : a ≤ b) :
    daysBeforeYear a ≤ daysBeforeYear b := by
  have hstep : Monotone daysBeforeYear := by
    apply monotone_nat_of_le_succ
    intro year
    rcases Nat.eq_zero_or_pos year with rfl | hpos
    · decide
    · rw [daysBeforeYear_succ hpos]
      exact Nat.le_add_right _ _
  exact hstep h

private theorem daysBeforeMonth_succ (year : Nat) {month : Nat} (h : 1 ≤ month) :
    daysBeforeMonth year (month + 1) = daysBeforeMonth year month + daysInMonth year month := by
  obtain ⟨passed, rfl⟩ := Nat.exists_eq_add_of_le' h
  rfl

private theorem daysBeforeMonth_year (year : Nat) :
    daysBeforeMonth year 13 = if isLeapYear year then 366 else 365 := by
  cases h : isLeapYear year <;> simp [daysBeforeMonth, daysInMonth, h]

private theorem monthAndDay_spec (year months month day : Nat) (hm : 1 ≤ month) (hd : 1 ≤ day)
    (h : daysBeforeMonth year month + day ≤ daysBeforeMonth year (month + months + 1)) :
    ∃ m k, monthAndDay year months month day = (m, k) ∧ month ≤ m ∧ m ≤ month + months ∧ 1 ≤ k ∧
      k ≤ daysInMonth year m ∧
      daysBeforeMonth year m + k = daysBeforeMonth year month + day := by
  induction months generalizing month day with
  | zero =>
    have hs := daysBeforeMonth_succ year hm
    exact ⟨month, day, rfl, by omega, by omega, hd, by simp only [Nat.add_zero] at h; omega, rfl⟩
  | succ months ih =>
    have hs := daysBeforeMonth_succ year hm
    rw [monthAndDay]
    split_ifs with hday
    · exact ⟨month, day, rfl, by omega, by omega, hd, hday, rfl⟩
    · rw [show month + (months + 1) + 1 = month + 1 + months + 1 by omega] at h
      obtain ⟨m, k, he, hlow, hhigh, hk, hkm, hsum⟩ :=
        ih (month + 1) (day - daysInMonth year month) (by omega) (by omega) (by omega)
      exact ⟨m, k, he, by omega, by omega, hk, hkm, by omega⟩

/-- A number up to that of the last day is the number of a day. -/
theorem ofDayNumber?_of_le {number : Int} (h1 : 1 ≤ number) (h2 : number ≤ last.dayNumber) :
    ∃ d, ofDayNumber? number = some d ∧ (d.dayNumber : Int) = number := by
  obtain ⟨n, rfl⟩ := Int.eq_ofNat_of_zero_le (by omega : 0 ≤ number)
  have hn : 1 ≤ n := by omega
  obtain ⟨hy, hlow, hhigh⟩ := yearOfDayNumber_bounds hn
  have hlast : n ≤ daysBeforeYear 10000 := by
    have : last.dayNumber = daysBeforeYear 10000 := by decide
    omega
  have hyear : yearOfDayNumber n ≤ 9999 := by
    by_contra hc
    have := daysBeforeYear_mono (show 10000 ≤ yearOfDayNumber n by omega)
    omega
  have hspan := daysBeforeYear_succ hy
  obtain ⟨m, k, he, hm1, hm2, hk1, hk2, hsum⟩ :=
    monthAndDay_spec (yearOfDayNumber n) 11 1 (n - daysBeforeYear (yearOfDayNumber n)) le_rfl (by omega)
      (by rw [daysBeforeMonth_year]; simp only [daysBeforeMonth]; omega)
  have hvalid : isCalendarDay (yearOfDayNumber n) m k = true := by
    simp only [isCalendarDay, Bool.and_eq_true, decide_eq_true_eq]
    omega
  refine ⟨⟨yearOfDayNumber n, m, k, hvalid⟩, ?_, ?_⟩
  · simp only [ofDayNumber?, Int.toNat_natCast, he, if_pos h1, of?, dif_pos hvalid]
  · simp only [dayNumber]
    simp only [daysBeforeMonth] at hsum
    omega

private theorem ofDayNumber?_of_gt {number : Int} (h : (last.dayNumber : Int) < number) :
    ofDayNumber? number = none := by
  obtain ⟨n, rfl⟩ := Int.eq_ofNat_of_zero_le (by omega : 0 ≤ number)
  obtain ⟨hy, hlow, hhigh⟩ := yearOfDayNumber_bounds (by omega : 1 ≤ n)
  have hlast : last.dayNumber = daysBeforeYear 10000 := by decide
  have hyear : 9999 < yearOfDayNumber n := by
    by_contra hc
    have := daysBeforeYear_mono (show yearOfDayNumber n + 1 ≤ 10000 by omega)
    omega
  have hinvalid (m k : Nat) : of? (yearOfDayNumber n) m k = none := by
    apply dif_neg
    simp only [isCalendarDay, Bool.and_eq_true, decide_eq_true_eq]
    omega
  simp only [ofDayNumber?, Int.toNat_natCast, hinvalid, ite_self]

/-- Year, month and day lie in their ranges. -/
theorem bounds (d : Date) : (1 ≤ d.year ∧ d.year ≤ 9999) ∧ (1 ≤ d.month ∧ d.month ≤ 12) ∧
    1 ≤ d.day ∧ d.day ≤ daysInMonth d.year d.month := by
  have h := d.valid
  simp only [isCalendarDay, Bool.and_eq_true, decide_eq_true_eq] at h
  omega

theorem dayNumber_pos (d : Date) : 1 ≤ d.dayNumber := by
  have h := d.bounds
  simp only [dayNumber]
  omega

private theorem daysBeforeMonth_mono (year : Nat) {a b : Nat} (h : a ≤ b) :
    daysBeforeMonth year a ≤ daysBeforeMonth year b := by
  have hstep : Monotone (daysBeforeMonth year) := by
    apply monotone_nat_of_le_succ
    intro month
    rcases Nat.eq_zero_or_pos month with rfl | hpos
    · exact Nat.zero_le _
    · rw [daysBeforeMonth_succ year hpos]
      exact Nat.le_add_right _ _
  exact hstep h

private theorem add_day_le (d : Date) :
    daysBeforeMonth d.year d.month + d.day ≤ daysBeforeMonth d.year (d.month + 1) := by
  obtain ⟨_, ⟨hmonth, _⟩, _, hday⟩ := d.bounds
  rw [daysBeforeMonth_succ d.year hmonth]
  exact Nat.add_le_add_left hday _

private theorem daysBeforeYear_lt_dayNumber (d : Date) : daysBeforeYear d.year < d.dayNumber := by
  have h := d.bounds
  simp only [dayNumber]
  omega

private theorem dayNumber_le_daysBeforeYear (d : Date) :
    d.dayNumber ≤ daysBeforeYear (d.year + 1) := by
  obtain ⟨⟨hyear, _⟩, ⟨_, hmonth⟩, _⟩ := d.bounds
  have hday := d.add_day_le
  have hmonths := daysBeforeMonth_mono d.year (show d.month + 1 ≤ 13 by omega)
  rw [daysBeforeMonth_year] at hmonths
  rw [daysBeforeYear_succ hyear, dayNumber]
  omega

theorem dayNumber_le_last (d : Date) : d.dayNumber ≤ last.dayNumber := by
  have hlast : last.dayNumber = daysBeforeYear 10000 := by decide
  rw [hlast]
  exact d.dayNumber_le_daysBeforeYear.trans (daysBeforeYear_mono (Nat.succ_le_succ d.bounds.1.2))

theorem dayNumber_lt_of_year {d e : Date} (h : d.year < e.year) : d.dayNumber < e.dayNumber :=
  calc
    d.dayNumber ≤ daysBeforeYear (d.year + 1) := d.dayNumber_le_daysBeforeYear
    _ ≤ daysBeforeYear e.year := daysBeforeYear_mono h
    _ < e.dayNumber := e.daysBeforeYear_lt_dayNumber

theorem dayNumber_lt_of_month {d e : Date} (hyear : d.year = e.year) (h : d.month < e.month) :
    d.dayNumber < e.dayNumber := by
  have hday := d.add_day_le
  have hmonths := daysBeforeMonth_mono e.year (show d.month + 1 ≤ e.month from h)
  have hfirst := e.bounds.2.2.1
  rw [hyear] at hday
  rw [dayNumber, dayNumber, hyear]
  omega

/-- No two days have one number. -/
theorem dayNumber_inj {d e : Date} : d.dayNumber = e.dayNumber ↔ d = e := by
  refine ⟨fun h => ?_, congrArg dayNumber⟩
  have hyear : d.year = e.year := by
    rcases Nat.lt_trichotomy d.year e.year with hlt | heq | hgt
    · exact absurd h (dayNumber_lt_of_year hlt).ne
    · exact heq
    · exact absurd h (dayNumber_lt_of_year hgt).ne'
  have hmonth : d.month = e.month := by
    rcases Nat.lt_trichotomy d.month e.month with hlt | heq | hgt
    · exact absurd h (dayNumber_lt_of_month hyear hlt).ne
    · exact heq
    · exact absurd h (dayNumber_lt_of_month hyear.symm hgt).ne'
  have hday : d.day = e.day := by
    rw [dayNumber, dayNumber, hyear, hmonth] at h
    exact Nat.add_left_cancel h
  cases d
  cases e
  cases hyear
  cases hmonth
  cases hday
  rfl

theorem isBefore_eq_false_iff {d e : Date} : d.isBefore e = false ↔ e.dayNumber ≤ d.dayNumber := by
  rw [isBefore, decide_eq_false_iff_not, Nat.not_lt]

theorem ofDayNumber?_eq_some_iff {number : Int} {d : Date} :
    ofDayNumber? number = some d ↔ (d.dayNumber : Int) = number := by
  constructor
  · intro h
    have hlow : 1 ≤ number := by
      by_contra hc
      simp only [ofDayNumber?, if_neg hc] at h
      cases h
    have hhigh : number ≤ last.dayNumber := by
      by_contra hc
      rw [ofDayNumber?_of_gt (not_le.mp hc)] at h
      cases h
    obtain ⟨e, he, hnumber⟩ := ofDayNumber?_of_le hlow hhigh
    rw [he] at h
    cases h
    exact hnumber
  · rintro rfl
    have hlow := d.dayNumber_pos
    have hhigh := d.dayNumber_le_last
    obtain ⟨e, he, hnumber⟩ := ofDayNumber?_of_le (show 1 ≤ (d.dayNumber : Int) by omega) (by omega)
    rw [he, dayNumber_inj.mp (Int.ofNat_inj.mp hnumber)]

end Date

end CrateGuard
