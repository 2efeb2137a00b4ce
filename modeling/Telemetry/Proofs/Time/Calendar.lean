import Mathlib.Order.Monotone.Basic
import Telemetry.Time.Calendar

/-!
# Days and dates

The date of a day is one with the number of the day (`Calendar.date_spec`), and it exists if the
year is one that dates are limited to (`Calendar.ofDate?_date`). Days that are found by other
means are within these years too.
-/

namespace Telemetry.Calendar

variable {year n : Int}

theorem yearStart_succ (year : Int) : yearStart (year + 1) = yearStart year + daysInYear year := by
  simp only [yearStart, daysInYear, isLeap, Bool.and_eq_true, Bool.or_eq_true, decide_eq_true_eq]
  split <;> omega

theorem yearStart_mono {year year' : Int} (h : year ≤ year') :
    yearStart year ≤ yearStart year' := by
  rcases Int.le_iff_lt_or_eq.mp h with h | rfl
  · simp only [yearStart]
    omega
  · exact Int.le_refl _

/-- A year begins on its first day or before it, and is over before the next begins. -/
theorem yearOf_spec (n : Int) : yearStart (yearOf n) ≤ n ∧ n < yearStart (yearOf n + 1) := by
  simp only [yearOf]
  split
  · simp only [yearStart] at *
    omega
  · split
    · simp only [yearStart] at *
      omega
    · omega

/-- A day of the years that dates are limited to. -/
def IsDated (n : Int) : Prop := yearStart firstYear ≤ n ∧ n < yearStart (lastYear + 1)

theorem inRange_yearOf (h : IsDated n) : inRange (yearOf n) = true := by
  obtain ⟨hfirst, hlast⟩ := h
  obtain ⟨hstart, hend⟩ := yearOf_spec n
  simp only [inRange, Bool.and_eq_true, decide_eq_true_eq]
  refine ⟨Int.not_lt.mp fun hlt => ?_, Int.not_lt.mp fun hlt => ?_⟩
  · have := yearStart_mono (show yearOf n + 1 ≤ firstYear by omega)
    omega
  · have := yearStart_mono (show lastYear + 1 ≤ yearOf n by omega)
    omega

theorem isDated_of_year {year n : Int} (hyear : inRange year = true) (h : yearStart year ≤ n)
    (h' : n < yearStart (year + 1)) : IsDated n := by
  simp only [inRange, Bool.and_eq_true, decide_eq_true_eq] at hyear
  exact ⟨Int.le_trans (yearStart_mono hyear.1) h,
    Int.lt_of_lt_of_le h' (yearStart_mono (by omega))⟩

/-! ## Months -/

theorem daysInMonth_le (year : Int) (month : Nat) : daysInMonth year month ≤ 31 := by
  fun_cases daysInMonth <;> simp


theorem monthStart_succ {month : Nat} (h : 0 < month) :
    monthStart year (month + 1) = monthStart year month + daysInMonth year month := by
  obtain ⟨m, rfl⟩ := Nat.exists_eq_succ_of_ne_zero (Nat.ne_of_gt h)
  simp [monthStart, List.range_succ]

theorem monthStart_end : monthStart year 13 = daysInYear year := by
  cases h : isLeap year <;>
    simp [monthStart, List.range, List.range.loop, daysInMonth, daysInYear, h]

theorem monthStart_le (year : Int) {month : Nat} (h : month ≤ 13) :
    monthStart year month ≤ daysInYear year := by
  have hnext : ∀ m, monthStart year m ≤ monthStart year (m + 1) := by
    intro m
    rcases Nat.eq_zero_or_pos m with rfl | hpos
    · exact Nat.zero_le _
    · rw [monthStart_succ hpos]
      exact Nat.le_add_right _ _
  rw [← monthStart_end]
  exact monotone_nat_of_le_succ hnext h

/-- The month is found from any month on that the day does not lie before. -/
theorem monthOf_spec {month count left : Nat} (hmonth : 0 < month)
    (h : monthStart year month + left < monthStart year (month + count)) :
    ∃ m d, monthOf year (List.range' month count) left = (m, d) ∧ month ≤ m ∧ m < month + count ∧
      1 ≤ d ∧ d ≤ daysInMonth year m ∧
      monthStart year m + d = monthStart year month + left + 1 := by
  induction count generalizing month left with
  | zero => exact absurd h (by simp)
  | succ count ih =>
      rw [List.range'_succ, monthOf]
      have hnext : monthStart year (month + 1) = _ := monthStart_succ hmonth
      split
      · rename_i hfirst
        exact ⟨month, left + 1, rfl, by omega, by omega, by omega, by omega, by omega⟩
      · rename_i hlater
        have hrest : monthStart year (month + 1) + (left - daysInMonth year month) <
            monthStart year (month + 1 + count) := by
          rw [show month + 1 + count = month + (count + 1) by omega]
          omega
        obtain ⟨m, d, heq, hm, hm', hd, hd', hsum⟩ := ih (Nat.add_pos_right month Nat.one_pos) hrest
        exact ⟨m, d, heq, by omega, by omega, hd, hd', by omega⟩

/-! ## Dates -/

/-- The date of a day exists in the calendar of all years, and is that of no other day. -/
theorem date_spec (n : Int) : ∃ month day, date n = ⟨yearOf n, month, day⟩ ∧
    1 ≤ month ∧ month ≤ 12 ∧ 1 ≤ day ∧ day ≤ daysInMonth (yearOf n) month ∧
    dayNumber ⟨yearOf n, month, day⟩ = n := by
  obtain ⟨hstart, hend⟩ := yearOf_spec n
  rw [yearStart_succ] at hend
  have hleft : monthStart (yearOf n) 1 + (ordinal n - 1) < monthStart (yearOf n) (1 + 12) := by
    rw [monthStart_end, ordinal]
    simp [monthStart]
    omega
  obtain ⟨m, d, heq, hm, hm', hd, hd', hsum⟩ := monthOf_spec Nat.one_pos hleft
  refine ⟨m, d, ?_, hm, by omega, hd, hd', ?_⟩
  · simp only [date]
    rw [show [1, 2, 3, 4, 5, 6, 7, 8, 9, 10, 11, 12] = List.range' 1 12 from rfl, heq]
  · have hfirst : monthStart (yearOf n) 1 = 0 := rfl
    rw [hfirst, ordinal] at hsum
    simp only [dayNumber]
    omega

theorem ofDate?_date (h : inRange (yearOf n) = true) :
    ofDate? (date n).year (date n).month (date n).day = some n := by
  obtain ⟨month, day, hdate, hm, hm', hd, hd', hn⟩ := date_spec n
  rw [hdate, ofDate?, if_pos (by simp [h, hm, hm', hd, hd']), hn]

/-! ## Days that are found -/

theorem isDated_of_ofDate? {year n : Int} {month day : Nat} (h : ofDate? year month day = some n) :
    IsDated n := by
  simp only [ofDate?, Option.ite_none_right_eq_some, Bool.and_eq_true, decide_eq_true_eq] at h
  obtain ⟨⟨⟨⟨⟨hyear, hmonth⟩, hmonth'⟩, hday⟩, hday'⟩, heq⟩ := h
  cases heq
  have hend := monthStart_le year (show month + 1 ≤ 13 by omega)
  rw [monthStart_succ hmonth] at hend
  refine isDated_of_year hyear ?_ ?_
  · simp only [dayNumber]
    omega
  · rw [yearStart_succ]
    simp only [dayNumber]
    omega

theorem isDated_of_ofOrdinal? {year n : Int} {ordinal : Nat}
    (h : ofOrdinal? year ordinal = some n) : IsDated n := by
  simp only [ofOrdinal?, Option.ite_none_right_eq_some, Bool.and_eq_true, decide_eq_true_eq] at h
  obtain ⟨⟨⟨hyear, hordinal⟩, hordinal'⟩, heq⟩ := h
  cases heq
  refine isDated_of_year hyear (by omega) ?_
  rw [yearStart_succ]
  omega

theorem isDated_of_ofIsoWeek? {year n : Int} {week weekday : Nat}
    (h : ofIsoWeek? year week weekday = some n) : IsDated n := by
  simp only [ofIsoWeek?, Option.ite_none_right_eq_some, Bool.and_eq_true, decide_eq_true_eq] at h
  obtain ⟨⟨-, hyear⟩, heq⟩ := h
  cases heq
  obtain ⟨hstart, hend⟩ := yearOf_spec (isoYearStart year + 7 * ((week : Int) - 1) + weekday)
  exact isDated_of_year hyear hstart hend

end Telemetry.Calendar
