import CrateGuard.Calendar.Moment
import CrateGuard.Proofs.Calendar.DateText

/-! The order of timestamps. The fields of a timestamp stand from the largest to the smallest, each
in a fixed width, so timestamps stand as texts as the moments do in time, each cut to whole
milliseconds, whatever their clocks show. -/

namespace CrateGuard

namespace Date

/-- Days stand as their years do, then as their months do, then as they do in their month. -/
private theorem compare_dayNumber (d e : Date) :
    compare d.dayNumber e.dayNumber =
      (compare d.year e.year).then ((compare d.month e.month).then (compare d.day e.day)) := by
  refine compare_eq_then dayNumber_lt_of_year dayNumber_lt_of_year fun hyear => ?_
  refine compare_eq_then (dayNumber_lt_of_month hyear) (dayNumber_lt_of_month hyear.symm) fun hmonth => ?_
  rw [dayNumber, dayNumber, hyear, hmonth, compare_add_left]

private theorem compare_text_append (d e : Date) (u v : Text) :
    compare (d.text ++ u) (e.text ++ v) = (compare d.dayNumber e.dayNumber).then (compare u v) := by
  have hdbounds := d.bounds
  have hebounds := e.bounds
  have hd := daysInMonth_le d.year d.month
  have he := daysInMonth_le e.year e.month
  simp only [text, List.append_assoc]
  rw [Text.compare_padded_append (by decide) (by omega) (by omega), Text.compare_append_of_length rfl,
    Text.compare_padded_append (by decide) (by omega) (by omega), Text.compare_append_of_length rfl,
    Text.compare_padded_append (by decide) (by omega) (by omega), compare_dayNumber]
  simp [Ordering.then_assoc]

end Date

namespace Moment

def IsInCalendar (m : Moment) : Prop :=
  Date.first.dayNumber * microsecondsPerDay ≤ m.instant ∧ m.instant < (Date.last.dayNumber + 1) * microsecondsPerDay

def milliseconds (m : Moment) : Int := m.instant / 1000

/-- Milliseconds of a day stand as a clock shows them: hours, minutes, seconds and the rest. -/
private theorem compare_clock (a b : Nat) :
    compare a b =
      (compare (a / 1000 / 3600) (b / 1000 / 3600)).then ((compare (a / 1000 / 60 % 60) (b / 1000 / 60 % 60)).then
        ((compare (a / 1000 % 60) (b / 1000 % 60)).then (compare (a % 1000) (b % 1000)))) := by
  have hhours (n : Nat) : n / 3600 = n / 60 / 60 := (Nat.div_div_eq_div_mul n 60 60).symm
  rw [compare_div_mod (show 0 < 1000 by decide) a b, compare_div_mod (show 0 < 60 by decide) (a / 1000) (b / 1000),
    compare_div_mod (show 0 < 60 by decide) (a / 1000 / 60) (b / 1000 / 60), hhours, hhours, Ordering.then_assoc,
    Ordering.then_assoc]

private theorem compare_timestampText (d e : Date) {s t : Nat} (hs : s < microsecondsPerDay)
    (ht : t < microsecondsPerDay) :
    compare (timestampText d s) (timestampText e t) =
      (compare d.dayNumber e.dayNumber).then (compare (s / 1000) (t / 1000)) := by
  rw [microsecondsPerDay] at hs ht
  simp only [timestampText, List.append_assoc]
  rw [Date.compare_text_append, Text.compare_append_of_length rfl,
    Text.compare_padded_append (by decide) (by omega) (by omega), Text.compare_append_of_length rfl,
    Text.compare_padded_append (by decide) (by omega) (by omega), Text.compare_append_of_length rfl,
    Text.compare_padded_append (by decide) (by omega) (by omega), Text.compare_append_of_length rfl,
    Text.compare_padded_append (by decide) (by omega) (by omega), compare_clock (s / 1000)]
  simp

private theorem length_timestampText (d : Date) {s : Nat} (hs : s < microsecondsPerDay) :
    (timestampText d s).length = 24 := by
  rw [microsecondsPerDay] at hs
  simp only [timestampText, List.length_append]
  rw [Date.length_text, Text.length_padded (by decide) (by omega), Text.length_padded (by decide) (by omega),
    Text.length_padded (by decide) (by omega), Text.length_padded (by decide) (by omega)]
  rfl

/-- The clock of universal time shows the milliseconds of a moment, and the microseconds that are
cut off. -/
private theorem exists_reading {m : Moment} (h : m.IsInCalendar) : ∃ (date : Date) (s : Nat),
    m.timestamp? = some (timestampText date s) ∧ s < microsecondsPerDay ∧
      m.milliseconds = (date.dayNumber * 86400000 + s / 1000 : Nat) := by
  obtain ⟨hfirst, hlast⟩ := h
  have hday : (microsecondsPerDay : Int) = 86400000000 := rfl
  have hone : Date.first.dayNumber = 1 := rfl
  rw [hday, hone] at hfirst
  rw [hday] at hlast
  have hlow : 1 ≤ m.instant / 86400000000 := by omega
  have hhigh : m.instant / 86400000000 ≤ Date.last.dayNumber := by omega
  obtain ⟨date, hdate, hnumber⟩ := Date.ofDayNumber?_of_le hlow hhigh
  refine ⟨date, (m.instant % 86400000000).toNat, ?_, ?_, ?_⟩
  · rw [timestamp?, utc?, hday, hdate]
    rfl
  · rw [microsecondsPerDay]
    omega
  · rw [milliseconds]
    omega

/-- Moments that differ in the milliseconds have other timestamps, and a later one has the later
timestamp. -/
theorem timestamps_order_instants {m n : Moment} (hm : m.IsInCalendar) (hn : n.IsInCalendar) :
    ∃ s t : Text, m.timestamp? = some s ∧ n.timestamp? = some t ∧
      (s.length = 24 ∧ s.getLast? = some (.char 'Z')) ∧ (t.length = 24 ∧ t.getLast? = some (.char 'Z')) ∧
      (s.isAtMost t = true ↔ m.milliseconds ≤ n.milliseconds) ∧ (s = t ↔ m.milliseconds = n.milliseconds) := by
  obtain ⟨d, s, hs, hsday, hmilliseconds⟩ := exists_reading hm
  obtain ⟨e, t, ht, htday, hothers⟩ := exists_reading hn
  have horder : compare (timestampText d s) (timestampText e t) =
      compare (d.dayNumber * 86400000 + s / 1000) (e.dayNumber * 86400000 + t / 1000) := by
    rw [microsecondsPerDay] at hsday htday
    rw [compare_timestampText d e hsday htday, compare_mul_add (by omega) (by omega)]
  rw [hmilliseconds, hothers, Int.ofNat_le, Int.ofNat_inj]
  refine ⟨_, _, hs, ht, ⟨length_timestampText d hsday, ?_⟩, ⟨length_timestampText e htday, ?_⟩, ?_, ?_⟩
  · exact List.getLast?_concat
  · exact List.getLast?_concat
  · rw [Text.isAtMost, horder, Nat.isLE_compare]
  · rw [← Std.LawfulEqOrd.compare_eq_iff_eq, horder, Nat.compare_eq_eq]

def earlyMarch : Moment := ⟨⟨2000, 3, 1, rfl⟩, 1800000500, some 3600⟩

/-- Half an hour before the end of the leap day of that year in universal time, and some
microseconds later. -/
def leapNight : Moment := ⟨⟨2000, 2, 29, rfl⟩, 84600000900, none⟩

/-- The two have one timestamp, though one clock shows another month. -/
theorem timestamps_order_instants_leapDay :
    earlyMarch.IsInCalendar ∧ leapNight.IsInCalendar ∧
      ∃ s, earlyMarch.timestamp? = some s ∧ leapNight.timestamp? = some s ∧ s.length = 24 := by
  have hearly : earlyMarch.IsInCalendar := ⟨by decide, by decide⟩
  have hleap : leapNight.IsInCalendar := ⟨by decide, by decide⟩
  obtain ⟨s, t, hs, ht, ⟨hlength, _⟩, _, _, hsame⟩ := timestamps_order_instants hearly hleap
  obtain rfl := hsame.mpr (by decide)
  exact ⟨hearly, hleap, s, hs, ht, hlength⟩

end Moment

end CrateGuard
