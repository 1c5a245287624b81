import Mathlib.Tactic.IntervalCases
import Mathlib.Tactic.SplitIfs
import VolumeAttacher.Timestamp

/-!
# The calendar

Every day has a date that the calendar has, and the date tells the day. An era of 400 years has four
centuries, a century has cycles of four years, and of these the last year may have one more day.
-/

namespace VolumeAttacher
namespace Timestamp

/-- A date that the calendar has. -/
structure Date.IsValid (date : Date) : Prop where
  month : 1 ≤ date.month ∧ date.month ≤ 12
  day : 1 ≤ date.day ∧ date.day ≤ daysInMonth date.year date.month

theorem daysInMonth_le (year : Int) (month : Nat) : daysInMonth year month ≤ 31 := by
  unfold daysInMonth
  split_ifs <;> decide

/-- A day of an era by its century, its cycle of four years, its year and its day in that year. -/
theorem exists_cycles
    {dayOfEra : Int}
    (lower : 0 ≤ dayOfEra)
    (upper : dayOfEra < 146097) :
    ∃ century cycle year day : Int, (0 ≤ century ∧ century ≤ 3) ∧ (0 ≤ cycle ∧ cycle ≤ 24) ∧
      (0 ≤ year ∧ year ≤ 3) ∧ (0 ≤ day ∧ day ≤ 365) ∧
      dayOfEra = 36524 * century + 1461 * cycle + 365 * year + day ∧
      (day = 365 → year = 3 ∧ (cycle = 24 → century = 3)) ∧
      dayOfEra / 36524 - dayOfEra / 146096 = century := by
  by_cases last : dayOfEra = 146096
  · subst last
    exact ⟨3, 24, 3, 365, by decide⟩
  · have centuries : 0 ≤ dayOfEra / 36524 ∧ dayOfEra / 36524 ≤ 3 := by omega
    have noLast : dayOfEra / 146096 = 0 := by omega
    have ofEra := Int.emod_add_mul_ediv dayOfEra 36524
    have inCentury : 0 ≤ dayOfEra % 36524 ∧ dayOfEra % 36524 < 36524 := by omega
    rw [noLast]
    clear noLast
    generalize dayOfEra % 36524 = dayOfCentury at *
    generalize dayOfEra / 36524 = century at *
    have cycles : 0 ≤ dayOfCentury / 1461 ∧ dayOfCentury / 1461 ≤ 24 := by omega
    have ofCentury := Int.emod_add_mul_ediv dayOfCentury 1461
    have inCycle : 0 ≤ dayOfCentury % 1461 ∧ dayOfCentury % 1461 ≤ 1460 := by omega
    generalize dayOfCentury % 1461 = dayOfCycle at *
    generalize dayOfCentury / 1461 = cycle at *
    by_cases leap : dayOfCycle = 1460
    · exact ⟨century, cycle, 3, 365, by omega⟩
    · have years : 0 ≤ dayOfCycle / 365 ∧ dayOfCycle / 365 ≤ 3 := by omega
      have ofCycle := Int.emod_add_mul_ediv dayOfCycle 365
      have inYear : 0 ≤ dayOfCycle % 365 ∧ dayOfCycle % 365 < 365 := by omega
      generalize dayOfCycle % 365 = day at *
      generalize dayOfCycle / 365 = year at *
      exact ⟨century, cycle, year, day, by omega⟩

/-- The year of a day of an era, and the day of that year, which counts from March. -/
theorem exists_yearOfEra
    {dayOfEra : Int}
    (lower : 0 ≤ dayOfEra)
    (upper : dayOfEra < 146097) :
    ∃ yearOfEra dayOfYear : Int,
      (dayOfEra - dayOfEra / 1460 + dayOfEra / 36524 - dayOfEra / 146096) / 365 = yearOfEra ∧
      dayOfEra - (365 * yearOfEra + yearOfEra / 4 - yearOfEra / 100) = dayOfYear ∧
      (0 ≤ yearOfEra ∧ yearOfEra < 400) ∧ (0 ≤ dayOfYear ∧ dayOfYear ≤ 365) ∧
      (dayOfYear = 365 → yearOfEra % 4 = 3 ∧ (yearOfEra % 100 = 99 → yearOfEra = 399)) := by
  obtain ⟨century, cycle, year, day, isCentury, isCycle, isYear, isDay, split, last, centuries⟩ :=
    exists_cycles lower upper
  have quotient {number divisor value : Int} (positive : 0 < divisor)
      (lower : value * divisor ≤ number) (upper : number < value * divisor + divisor) :
      number / divisor = value :=
    (Int.ediv_eq_iff_of_pos positive).mpr ⟨lower, upper⟩
  refine ⟨100 * century + 4 * cycle + year, day, ?_, ?_, by omega, isDay, ?_⟩
  · -- A cycle has 1461 days, so that by counting 1460 the next one may be reached too early.
    obtain ⟨early, isEarly, cycles, bound⟩ : ∃ early : Int, (early = 0 ∨ early = 1) ∧
        dayOfEra / 1460 = 25 * century + cycle + early ∧
        (early = 1 ↔ 1460 ≤ 24 * century + cycle + 365 * year + day) := by
      by_cases reached : 1460 ≤ 24 * century + cycle + 365 * year + day
      · exact ⟨1, .inr rfl, quotient (by decide) (by omega) (by omega), by omega⟩
      · exact ⟨0, .inl rfl, quotient (by decide) (by omega) (by omega), by omega⟩
    generalize dayOfEra / 36524 = first at *
    generalize dayOfEra / 146096 = second at *
    apply quotient <;> omega
  · have quarters : (100 * century + 4 * cycle + year) / 4 = 25 * century + cycle :=
      quotient (by decide) (by omega) (by omega)
    have hundreds : (100 * century + 4 * cycle + year) / 100 = century :=
      quotient (by decide) (by omega) (by omega)
    omega
  · clear centuries
    omega

/-- The era of a day, its year there, its month from March, and its day. -/
theorem exists_ofDayNumber (number : Int) :
    ∃ era yearOfEra month day : Int,
      number + 719468 = era * 146097 + (yearOfEra * 365 + yearOfEra / 4 - yearOfEra / 100) +
        ((153 * month + 2) / 5 + day) ∧
      (0 ≤ yearOfEra ∧ yearOfEra < 400) ∧ (0 ≤ month ∧ month ≤ 11) ∧
      (0 ≤ day ∧ (153 * month + 2) / 5 + day < (153 * (month + 1) + 2) / 5) ∧
      (month = 11 → day ≤ 28 ∧ (day = 28 →
        yearOfEra % 4 = 3 ∧ (yearOfEra % 100 = 99 → yearOfEra = 399))) ∧
      Date.ofDayNumber number =
        ⟨yearOfEra + era * 400 + if month < 10 then 0 else 1,
          (if month < 10 then month + 3 else month - 9).toNat, (day + 1).toNat⟩ := by
  have ofEra := Int.emod_add_mul_ediv (number + 719468) 146097
  have lower := Int.emod_nonneg (number + 719468) (by decide : (146097 : Int) ≠ 0)
  have upper := Int.emod_lt_of_pos (number + 719468) (by decide : (0 : Int) < 146097)
  obtain ⟨yearOfEra, dayOfYear, isYear, isDay, yearBounds, dayBounds, leap⟩ :=
    exists_yearOfEra lower upper
  refine ⟨(number + 719468) / 146097, yearOfEra, (5 * dayOfYear + 2) / 153,
    dayOfYear - (153 * ((5 * dayOfYear + 2) / 153) + 2) / 5, ?_, yearBounds, ?_, ?_, ?_, ?_⟩
  · omega
  · omega
  · omega
  · omega
  · have isMonth : (if (5 * dayOfYear + 2) / 153 < 10 then (5 * dayOfYear + 2) / 153 + 3
        else (5 * dayOfYear + 2) / 153 - 9) ≤ 2 ↔ ¬ (5 * dayOfYear + 2) / 153 < 10 := by
      split <;> omega
    unfold Date.ofDayNumber
    dsimp only
    rw [isYear, isDay]
    simp only [isMonth, ite_not]

/-- The date of a day tells the day. -/
theorem Date.dayNumber_ofDayNumber (number : Int) : (ofDayNumber number).dayNumber = number := by
  obtain ⟨era, yearOfEra, month, day, split, yearBounds, monthBounds, dayBounds, -, date⟩ :=
    exists_ofDayNumber number
  rw [date]
  unfold dayNumber
  dsimp only
  by_cases early : month < 10
  · simp only [early, if_true]
    rw [if_neg (by omega)]
    have isEra : (yearOfEra + era * 400 + 0) / 400 = era := by omega
    have isYear : (yearOfEra + era * 400 + 0) % 400 = yearOfEra := by omega
    have isMonth : (((month + 3).toNat : Int) + 9) % 12 = month := by omega
    rw [isEra, isYear, isMonth]
    omega
  · simp only [early, if_false]
    rw [if_pos (by omega)]
    have isEra : (yearOfEra + era * 400 + 1 - 1) / 400 = era := by omega
    have isYear : (yearOfEra + era * 400 + 1 - 1) % 400 = yearOfEra := by omega
    have isMonth : (((month - 9).toNat : Int) + 9) % 12 = month := by omega
    rw [isEra, isYear, isMonth]
    omega

/-- The date of a day is one that the calendar has. -/
theorem Date.isValid_ofDayNumber (number : Int) : (ofDayNumber number).IsValid := by
  obtain ⟨era, yearOfEra, month, day, -, yearBounds, monthBounds, dayBounds, leap, date⟩ :=
    exists_ofDayNumber number
  rw [date]
  refine ⟨?_, ?_, ?_⟩
  · dsimp only
    split <;> omega
  · dsimp only
    omega
  · obtain ⟨lower, upper⟩ := monthBounds
    by_cases february : month = 11
    · subst february
      obtain ⟨short, isLeap⟩ := leap rfl
      have leapYear : day = 28 → isLeapYear (yearOfEra + era * 400 + 1) = true := by
        intro last
        obtain ⟨fourth, hundredth⟩ := isLeap last
        simp only [isLeapYear, Bool.and_eq_true, decide_eq_true_eq, Bool.or_eq_true, bne_iff_ne]
        refine ⟨by omega, ?_⟩
        by_cases late : yearOfEra % 100 = 99
        · exact .inr (by omega)
        · exact .inl (by omega)
      change (day + 1).toNat ≤ if isLeapYear (yearOfEra + era * 400 + 1) = true then 29 else 28
      split_ifs with isLeap
      · omega
      · have := mt leapYear isLeap
        omega
    · interval_cases month <;> simp [daysInMonth] <;> omega

end Timestamp

end VolumeAttacher
