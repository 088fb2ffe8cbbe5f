import Biblio.Moment.Calendar
import Mathlib.Tactic.IntervalCases

/-!
# The calendar and the count of days

Days are counted in years that begin in March, by the `Place` of a day in the cycle of 400 years.

* `Place.Sound` is what the arithmetic of `place` guarantees, and `Place.Sound.date_eq` reads the
  date off it, month by month.
* `toDays_ofDays` — the date of a day is the date with that count.
* `month_day_ofDays` — the date of a day exists.
* `year_ofDays_le_iff` — the days before a year are those of an earlier one.
-/

set_option autoImplicit false

namespace Biblio
namespace Date

/-! ## Places -/

/-- What is known of the place of a day. -/
structure Place.Sound (p : Place) : Prop where
  century : 0 ≤ p.century ∧ p.century ≤ 3
  leapCycle : 0 ≤ p.leapCycle ∧ p.leapCycle ≤ 24
  year : 0 ≤ p.year ∧ p.year ≤ 3
  day_nonneg : 0 ≤ p.day
  /-- Only the last year of a leap cycle has a day more, and not if a century ends with it, unless
  the cycle of 400 years does. -/
  day_le : p.day ≤ 364 ∨ p.day = 365 ∧ p.year = 3 ∧ (p.leapCycle = 24 → p.century = 3)

/-- The day at a place, counted from 1 March of the year 0. -/
def Place.days (p : Place) : Int :=
  p.cycle * cycleDays + p.century * 36524 + p.leapCycle * 1461 + p.year * 365 + p.day

theorem place_sound (z : Int) : (place z).Sound := by
  constructor <;> simp only [place, cycleDays] <;> omega

theorem days_place (z : Int) : (place z).days = z := by
  simp only [place, Place.days, cycleDays]
  omega

/-- No year has more than 366 days. -/
theorem Place.Sound.day_le_leap {p : Place} (h : p.Sound) : p.day ≤ 365 := by
  have := h.day_le
  omega

/-- The date of a place, by the months since March: the first ten are in the year in which the place
begins, and the last two in the next. -/
theorem Place.Sound.date_eq {p : Place} (h : p.Sound) :
    (∃ m d : Nat, m ≤ 9 ∧ p.day = monthStart m + d ∧ p.day < monthStart (m + 1) ∧
      p.date = ⟨p.marchYear, m + 3, d + 1⟩) ∨
    ∃ m d : Nat, m ≤ 1 ∧ p.day = monthStart (m + 10) + d ∧ p.day < monthStart (m + 11) ∧
      p.date = ⟨p.marchYear + 1, m + 1, d + 1⟩ := by
  have hday := h.day_le_leap
  have hnonneg := h.day_nonneg
  have hd : 0 ≤ p.day - monthStart ((5 * p.day + 2) / 153) := by
    simp only [monthStart]
    omega
  have hlt : p.day < monthStart ((5 * p.day + 2) / 153 + 1) := by
    simp only [monthStart]
    omega
  have hm : (5 * p.day + 2) / 153 ≤ 11 := by omega
  have hm' : 0 ≤ (5 * p.day + 2) / 153 := by omega
  rw [Place.date]
  obtain ⟨m, hmeq⟩ := Int.eq_ofNat_of_zero_le hm'
  obtain ⟨d, hdeq⟩ := Int.eq_ofNat_of_zero_le hd
  rw [hmeq] at hm hd hdeq hlt
  simp only [hmeq, hdeq]
  by_cases hten : (m : Int) < 10
  · refine .inl ⟨m, d, by omega, by omega, hlt, ?_⟩
    rw [if_pos hten, if_neg (by omega)]
    congr 1
  · obtain ⟨k, rfl⟩ : ∃ k, m = k + 10 := ⟨m - 10, by omega⟩
    refine .inr ⟨k, d, by omega, ?_, ?_, ?_⟩
    · push_cast at hdeq
      omega
    · push_cast at hlt
      rwa [add_assoc] at hlt
    · rw [if_neg hten, if_pos (by omega)]
      congr 1
      omega

/-- The days from 1 March of the year 0 to 1 March of a year. -/
def marchDays (y : Int) : Int := y / 400 * cycleDays + y % 400 * 365 + y % 400 / 4 - y % 400 / 100

/-- No year is shorter than 365 days. -/
theorem marchDays_add_le {a b : Int} (h : a < b) : marchDays a + 365 ≤ marchDays b := by
  simp only [marchDays, cycleDays]
  omega

theorem Place.Sound.days_eq {p : Place} (h : p.Sound) : p.days = marchDays p.marchYear + p.day := by
  obtain ⟨hcentury, hleap, hyear, -, -⟩ := h
  simp only [Place.days, marchDays, Place.marchYear, cycleDays]
  omega

/-- The days of a date from March on. -/
theorem toDays_of_march {y : Int} {m d : Nat} (hm : m ≤ 9) :
    toDays ⟨y, m + 3, d + 1⟩ = marchDays y + monthStart m + d - epochShift := by
  have hmonth : (((m + 3 : Nat) : Int) + 9) % 12 = m := by omega
  simp only [toDays, hmonth, if_neg (show ¬ m + 3 ≤ 2 by omega), marchDays]
  omega

/-- The days of a date in January or February, which still belong to the March before. -/
theorem toDays_of_january {y : Int} {m d : Nat} (hm : m ≤ 1) :
    toDays ⟨y + 1, m + 1, d + 1⟩ = marchDays y + monthStart (m + 10) + d - epochShift := by
  have hmonth : (((m + 1 : Nat) : Int) + 9) % 12 = m + 10 := by omega
  simp only [toDays, hmonth, if_pos (show m + 1 ≤ 2 by omega), marchDays, Int.add_sub_cancel]
  omega

theorem Place.Sound.toDays_date {p : Place} (h : p.Sound) :
    p.date.toDays = p.days - epochShift := by
  rw [h.days_eq]
  rcases h.date_eq with ⟨m, d, hm, hday, -, hdate⟩ | ⟨m, d, hm, hday, -, hdate⟩
  · rw [hdate, toDays_of_march hm, hday]
    omega
  · rw [hdate, toDays_of_january hm, hday]
    omega

/-! ## Days and dates -/

/-- **The count of days is kept.** -/
theorem toDays_ofDays (days : Int) : (ofDays days).toDays = days := by
  rw [ofDays, (place_sound _).toDays_date, days_place]
  omega

/-- The days before a year are those whose year is an earlier one. -/
theorem year_ofDays_le_iff {days y : Int} : (ofDays days).year ≤ y ↔ days < toDays ⟨y + 1, 1, 1⟩ := by
  have hsound := place_sound (days + epochShift)
  have hdays := hsound.days_eq
  rw [days_place] at hdays
  rw [ofDays, toDays_of_january (by decide : 0 ≤ 1)]
  generalize place (days + epochShift) = p at *
  have horder : p.marchYear < y ∧ marchDays p.marchYear + 365 ≤ marchDays y ∨
      p.marchYear = y ∧ marchDays p.marchYear = marchDays y ∨
      y < p.marchYear ∧ marchDays y + 365 ≤ marchDays p.marchYear := by
    rcases Int.lt_trichotomy p.marchYear y with h | h | h
    · exact .inl ⟨h, marchDays_add_le h⟩
    · exact .inr (.inl ⟨h, congrArg marchDays h⟩)
    · exact .inr (.inr ⟨h, marchDays_add_le h⟩)
  have hnonneg := hsound.day_nonneg
  have hle := hsound.day_le_leap
  rcases hsound.date_eq with ⟨m, d, hm, hday, hlt, hdate⟩ | ⟨m, d, hm, hday, -, hdate⟩
  · rw [hdate]
    simp only [monthStart] at hlt ⊢
    omega
  · rw [hdate]
    simp only [monthStart] at hday ⊢
    omega

theorem daysInMonth_le (y : Int) (m : Nat) : daysInMonth y m ≤ 31 := by
  rw [daysInMonth]
  split_ifs <;> decide

theorem daysInMonth_of_march {y : Int} {m : Nat} (hm : m ≤ 9) :
    (daysInMonth y (m + 3) : Int) = monthStart (m + 1) - monthStart m := by
  interval_cases m <;> rfl

/-- There is a 29 February only in a leap year. -/
theorem Place.Sound.isLeap {p : Place} (h : p.Sound) (hday : p.day = 365) :
    Date.isLeap (p.marchYear + 1) = true := by
  obtain ⟨hyear, hcentury⟩ := (h.day_le.resolve_left (by omega)).2
  obtain ⟨hcentury', hleap, -, -, -⟩ := h
  rw [Date.isLeap, Place.marchYear, hyear]
  simp only [Bool.and_eq_true, Bool.or_eq_true, beq_iff_eq, bne_iff_ne]
  omega

/-- **The date of a day exists.** -/
theorem month_day_ofDays (days : Int) :
    1 ≤ (ofDays days).month ∧ (ofDays days).month ≤ 12 ∧ 1 ≤ (ofDays days).day ∧
      (ofDays days).day ≤ daysInMonth (ofDays days).year (ofDays days).month := by
  have hsound := place_sound (days + epochShift)
  rw [ofDays]
  generalize place (days + epochShift) = p at *
  rcases hsound.date_eq with ⟨m, d, hm, hday, hlt, hdate⟩ | ⟨m, d, hm, hday, hlt, hdate⟩
  · rw [hdate]
    refine ⟨Nat.le_add_left 1 _, Nat.add_le_add_right hm 3, Nat.le_add_left 1 _, ?_⟩
    have hlen := daysInMonth_of_march (y := p.marchYear) hm
    show d + 1 ≤ daysInMonth p.marchYear (m + 3)
    omega
  · rw [hdate]
    refine ⟨Nat.le_add_left 1 _, by simp only; omega, Nat.le_add_left 1 _, ?_⟩
    show d + 1 ≤ daysInMonth (p.marchYear + 1) (m + 1)
    interval_cases m
    · have hlen : daysInMonth (p.marchYear + 1) (0 + 1) = 31 := rfl
      simp only [monthStart] at hday hlt
      omega
    · have hlen : daysInMonth (p.marchYear + 1) (1 + 1) =
          if Date.isLeap (p.marchYear + 1) then 29 else 28 := rfl
      have hle := hsound.day_le
      simp only [monthStart] at hday hlt
      split at hlen
      · omega
      · next hleap =>
        have hne : p.day ≠ 365 := fun h => hleap (hsound.isLeap h)
        omega

end Date
end Biblio
