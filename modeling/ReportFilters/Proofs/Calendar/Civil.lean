import Mathlib.Data.Nat.Init
import ReportFilters.Calendar.Day

/-! Days by year, month and day of month. Counting the days up to a date that was read off a count gives
the count again. -/

namespace ReportFilters

namespace CivilDate

theorem daysBeforeYear_bounds (year : Int) :
    146097 * (year - 1) - 699 ≤ 400 * daysBeforeYear year ∧
      400 * daysBeforeYear year ≤ 146097 * (year - 1) + 396 := by
  rw [daysBeforeYear]
  omega

theorem yearOf_spec (number : Int) :
    daysBeforeYear (yearOf number) ≤ number ∧ number < daysBeforeYear (yearOf number + 1) := by
  rw [yearOf]
  generalize hguess : 400 * number / 146097 + 1 = guess
  have hbefore := daysBeforeYear_bounds (guess - 1)
  have hafter := daysBeforeYear_bounds (guess + 1 + 1)
  split
  · rw [Int.sub_add_cancel]
    omega
  · split <;> omega

theorem isLeap_iff (year : Int) :
    isLeap year ↔ year % 4 = 0 ∧ (year % 100 ≠ 0 ∨ year % 400 = 0) := by
  simp [isLeap]

theorem daysBeforeYear_succ (year : Int) :
    daysBeforeYear (year + 1) = daysBeforeYear year + ((monthLengths year).foldr (· + ·) 0 : Nat) := by
  rw [monthLengths]
  have hiff := isLeap_iff year
  by_cases hleap : isLeap year
  · have hdiv := hiff.mp hleap
    rw [if_pos hleap]
    simp only [daysBeforeYear, List.foldr]
    omega
  · have hdiv := mt hiff.mpr hleap
    rw [if_neg hleap]
    simp only [daysBeforeYear, List.foldr]
    omega

theorem splitMonths_spec {lengths : List Nat} {rest : Nat} (h : rest < lengths.foldr (· + ·) 0)
    (month : Nat) : ∃ i, (splitMonths month rest lengths).1 = month + i ∧ i < lengths.length ∧
      1 ≤ (splitMonths month rest lengths).2 ∧
      (splitMonths month rest lengths).2 ≤ lengths.getD i 0 ∧
      (lengths.take i).foldr (· + ·) 0 + ((splitMonths month rest lengths).2 - 1) = rest := by
  induction lengths generalizing month rest with
  | nil => exact absurd h (Nat.not_lt_zero _)
  | cons length more ih =>
    rw [splitMonths]
    split
    next hlt =>
      refine ⟨0, rfl, Nat.zero_lt_succ _, Nat.le_add_left .., hlt, ?_⟩
      simp
    next hge =>
      have hshort : rest - length < more.foldr (· + ·) 0 := by
        rw [List.foldr_cons] at h
        omega
      obtain ⟨i, hmonth, hi, hfirst, hlast, hrest⟩ := ih hshort (month + 1)
      refine ⟨i + 1, by omega, Nat.succ_lt_succ hi, hfirst, hlast, ?_⟩
      rw [List.take_succ_cons, List.foldr_cons]
      omega

theorem length_monthLengths (year : Int) : (monthLengths year).length = 12 := rfl

theorem monthLength_le (year : Int) (i : Nat) : (monthLengths year).getD i 0 ≤ 31 := by
  rw [monthLengths]
  split <;> rcases i with _ | _ | _ | _ | _ | _ | _ | _ | _ | _ | _ | _ | i <;> simp

theorem number?_ofNumber (number : Int) : (ofNumber number).number? = some number ∧
    (ofNumber number).month < 100 ∧ (ofNumber number).day < 100 := by
  obtain ⟨hfirst, hlast⟩ := yearOf_spec number
  rw [daysBeforeYear_succ] at hlast
  generalize hyear : yearOf number = year at *
  have hdate : ofNumber number = ⟨year,
      (splitMonths 1 (number - daysBeforeYear year).toNat (monthLengths year)).1,
      (splitMonths 1 (number - daysBeforeYear year).toNat (monthLengths year)).2⟩ := by
    rw [ofNumber, hyear]
  obtain ⟨i, hmonth, hi, hday, hlength, hrest⟩ :=
    @splitMonths_spec (monthLengths year) (number - daysBeforeYear year).toNat (by omega) 1
  rw [hdate]
  generalize splitMonths 1 (number - daysBeforeYear year).toNat (monthLengths year) = split at *
  obtain ⟨month, day⟩ := split
  obtain rfl : month = 1 + i := hmonth
  simp only at hday hlength hrest ⊢
  have hmost := monthLength_le year i
  rw [length_monthLengths] at hi
  refine ⟨?_, by omega, by omega⟩
  rw [number?, daysBeforeMonth]
  simp only [Nat.add_sub_cancel_left]
  rw [if_pos ⟨by omega, by omega, hday, hlength⟩]
  congr 1
  omega

end CivilDate

theorem Day.ofCivil?_ofNumber (number : Int) :
    Day.ofCivil? (CivilDate.ofNumber number) = Day.ofNumber? number := by
  rw [Day.ofCivil?, (CivilDate.number?_ofNumber number).1]
  rfl

end ReportFilters
