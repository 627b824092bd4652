import CrateGuard.Calendar.ReviewDeadline
import CrateGuard.Proofs.Calendar.DayNumber
import CrateGuard.Proofs.Except

/-! Review deadlines as sums of days. The calendar is shorter than the longest span, so a number of
days overflows, in whichever way, if and only if no day has the sum as its number. Ahead of a day
such a sum lies behind the last day, which is then the deadline. -/

namespace CrateGuard

private theorem DaySpan.ofDays_eq_ok_iff {days : Int} {span : DaySpan} :
    ofDays days = .ok span ↔ span.days = days := by
  constructor
  · intro h
    unfold ofDays at h
    split_ifs at h with hwide hlong
    cases h
    rfl
  · rintro rfl
    have hlong := span.inRange
    have hwide : -2147483648 ≤ span.days ∧ span.days ≤ 2147483647 := by
      rw [longestSpan] at hlong
      omega
    rw [ofDays, if_pos hwide, dif_pos hlong]

namespace Date

private theorem shift_eq_ok_iff {d shifted : Date} {span : DaySpan} :
    d.shift span = .ok shifted ↔ (shifted.dayNumber : Int) = d.dayNumber + span.days := by
  rw [← ofDayNumber?_eq_some_iff, shift]
  cases ofDayNumber? (d.dayNumber + span.days) <;> simp

/-- The day some days away is the one with the sum as its number. Where there is one, no bound on
spans is in the way. -/
private theorem shiftDays_eq_ok_iff {d shifted : Date} {days : Int} :
    d.shiftDays days = .ok shifted ↔ (shifted.dayNumber : Int) = d.dayNumber + days := by
  rw [shiftDays, bind_eq_ok]
  constructor
  · rintro ⟨span, hspan, hshift⟩
    rw [← DaySpan.ofDays_eq_ok_iff.mp hspan]
    exact shift_eq_ok_iff.mp hshift
  · intro h
    -- Both days lie in the calendar, so they are less than its length apart.
    have hrange : days.natAbs ≤ longestSpan := by
      have hlast : last.dayNumber ≤ longestSpan := by decide
      have hd := d.dayNumber_le_last
      have hshifted := shifted.dayNumber_le_last
      omega
    exact ⟨⟨days, hrange⟩, DaySpan.ofDays_eq_ok_iff.mpr rfl, shift_eq_ok_iff.mpr h⟩

private theorem exists_shiftDays_eq_error_iff {d : Date} {days : Int} :
    (∃ overflow, d.shiftDays days = .error overflow) ↔
      d.dayNumber + days < 1 ∨ (last.dayNumber : Int) < d.dayNumber + days := by
  constructor
  · rintro ⟨overflow, hshift⟩
    by_contra hc
    obtain ⟨hlow, hhigh⟩ := not_or.mp hc
    obtain ⟨shifted, _, hsum⟩ := ofDayNumber?_of_le (not_lt.mp hlow) (not_lt.mp hhigh)
    rw [shiftDays_eq_ok_iff.mpr hsum] at hshift
    cases hshift
  · intro hout
    cases hshift : d.shiftDays days with
    | error overflow => exact ⟨overflow, rfl⟩
    | ok shifted =>
      have hsum := shiftDays_eq_ok_iff.mp hshift
      have hpos := shifted.dayNumber_pos
      have hlast := shifted.dayNumber_le_last
      omega

end Date

/-- The deadline lies the whole window ahead, but not beyond the last day. -/
theorem dayNumber_reviewDeadline (today : Date) {window : Int} (h : 0 ≤ window) :
    ((reviewDeadline today window).dayNumber : Int) =
      min (today.dayNumber + window) Date.last.dayNumber := by
  unfold reviewDeadline
  cases hshift : today.shiftDays window with
  | ok deadline =>
    have hsum := Date.shiftDays_eq_ok_iff.mp hshift
    have hlast := deadline.dayNumber_le_last
    dsimp only
    omega
  | error overflow =>
    have hout := Date.exists_shiftDays_eq_error_iff.mp ⟨overflow, hshift⟩
    have hpos := today.dayNumber_pos
    rw [min_eq_right (by omega)]

theorem le_reviewDeadline (today : Date) {window : Int} (h : 0 ≤ window) :
    today.dayNumber ≤ (reviewDeadline today window).dayNumber := by
  have hdeadline := dayNumber_reviewDeadline today h
  have hlast := today.dayNumber_le_last
  omega

/-- The deadline comes no earlier on a later day or with a wider window, at the end of the calendar
too. -/
theorem reviewDeadline_mono {today later : Date} {narrow wide : Int} (h : 0 ≤ narrow)
    (hdays : today.dayNumber ≤ later.dayNumber) (hwindows : narrow ≤ wide) :
    (reviewDeadline today narrow).dayNumber ≤ (reviewDeadline later wide).dayNumber := by
  have hnarrow := dayNumber_reviewDeadline today h
  have hwide := dayNumber_reviewDeadline later (h.trans hwindows)
  omega

/-- A sum that has stopped at the last day stays there, as the sum of both windows does. -/
private theorem reviewDeadline_reviewDeadline (today : Date) {first second : Int}
    (hfirst : 0 ≤ first) (hsecond : 0 ≤ second) :
    reviewDeadline (reviewDeadline today first) second = reviewDeadline today (first + second) := by
  have hbetween := dayNumber_reviewDeadline today hfirst
  have htwice := dayNumber_reviewDeadline (reviewDeadline today first) hsecond
  have honce := dayNumber_reviewDeadline today (Int.add_nonneg hfirst hsecond)
  apply Date.dayNumber_inj.mp
  omega

/-- A review deadline is a sum of days that stops at the last day of the calendar, however wide the
window is. So it is never before today, it comes no earlier on a later day or in a wider window, and
one window after another reaches as far as both together. -/
theorem deadlines_are_clamped_sums :
    (∀ (today : Date) (window : Int), 0 ≤ window →
      reviewDeadlineOf today (.int window) = .ok (reviewDeadline today window) ∧
      (∀ d : Date, d = reviewDeadline today window ↔
        (d.dayNumber : Int) = min (today.dayNumber + window) Date.last.dayNumber) ∧
      (reviewDeadline today window).isBefore today = false) ∧
    (∀ (today later : Date) (narrow wide : Int), later.isBefore today = false → 0 ≤ narrow → narrow ≤ wide →
      (reviewDeadline later wide).isBefore (reviewDeadline today narrow) = false) ∧
    ∀ (today : Date) (first second : Int), 0 ≤ first → 0 ≤ second →
      reviewDeadline (reviewDeadline today first) second = reviewDeadline today (first + second) := by
  refine ⟨?_, ?_, ?_⟩
  · intro today window h
    refine ⟨rfl, fun d => ?_, Date.isBefore_eq_false_iff.mpr (le_reviewDeadline today h)⟩
    rw [← dayNumber_reviewDeadline today h, Int.ofNat_inj, Date.dayNumber_inj]
  · intro today later narrow wide hdays h hwindows
    rw [Date.isBefore_eq_false_iff] at hdays ⊢
    exact reviewDeadline_mono h hdays hwindows
  · intro today first second hfirst hsecond
    exact reviewDeadline_reviewDeadline today hfirst hsecond

def leapEve : Date := ⟨2000, 2, 28, rfl⟩

def lastEve : Date := ⟨9999, 12, 30, rfl⟩

/-- A year ahead over the leap day, and from the end of the calendar a window for each way to
overflow. -/
theorem deadlines_are_clamped_sums_overflowing :
    reviewDeadlineOf leapEve (.int 366) = .ok ⟨2001, 2, 28, rfl⟩ ∧
    (lastEve.shiftDays 2 = .error .outsideCalendar ∧ reviewDeadlineOf lastEve (.int 2) = .ok Date.last) ∧
    (lastEve.shiftDays 1000000000 = .error .tooLong ∧ reviewDeadlineOf lastEve (.int 1000000000) = .ok Date.last) ∧
    (lastEve.shiftDays 2147483648 = .error .tooWide ∧ reviewDeadlineOf lastEve (.int 2147483648) = .ok Date.last) ∧
    (reviewDeadline lastEve 2147483648).isBefore (reviewDeadline leapEve 366) = false ∧
    reviewDeadline (reviewDeadline leapEve 366) 2147483648 = reviewDeadline leapEve 2147484014 := by
  obtain ⟨hsums, hmono, htwice⟩ := deadlines_are_clamped_sums
  have hanswer {today deadline : Date} {window : Int} (h : 0 ≤ window)
      (hsum : (deadline.dayNumber : Int) = min (today.dayNumber + window) Date.last.dayNumber) :
      reviewDeadlineOf today (.int window) = .ok deadline := by
    obtain ⟨hok, hunique, _⟩ := hsums today window h
    rw [hok, (hunique deadline).mpr hsum]
  refine ⟨hanswer (by decide) (by decide), ⟨by decide, hanswer (by decide) (by decide)⟩,
    ⟨by decide, hanswer (by decide) (by decide)⟩, ⟨by decide, hanswer (by decide) (by decide)⟩, ?_, ?_⟩
  · exact hmono leapEve lastEve 366 2147483648 (by decide) (by decide) (by decide)
  · exact htwice leapEve 366 2147483648 (by decide) (by decide)

end CrateGuard
