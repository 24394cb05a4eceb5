import Mathlib.Algebra.Group.Nat.Defs
import Mathlib.Data.List.Induction
import Mathlib.Data.List.TakeWhile
import ReportFilters.Calendar.Parser

/-! Decimal digits as text: what is written of a natural number is read as that number, wherever the
digits end. -/

namespace ReportFilters

def Stops (p : Char → Bool) (text : List Char) : Prop := ∀ c ∈ text.head?, p c = false

section
variable {p : Char → Bool} {front rest : List Char} (hfront : ∀ c ∈ front, p c = true)
  (hrest : Stops p rest)
include hrest

theorem Stops.dropWhile_eq : rest.dropWhile p = rest := by
  cases rest with
  | nil => rfl
  | cons c more => exact List.dropWhile_cons_of_neg (by simp [hrest c rfl])

theorem Stops.takeWhile_eq : rest.takeWhile p = [] := by
  cases rest with
  | nil => rfl
  | cons c more => exact List.takeWhile_cons_of_neg (by simp [hrest c rfl])

include hfront

theorem Stops.takeWhile_append : (front ++ rest).takeWhile p = front := by
  rw [List.takeWhile_append_of_pos hfront, hrest.takeWhile_eq, List.append_nil]

theorem Stops.dropWhile_append : (front ++ rest).dropWhile p = rest := by
  rw [List.dropWhile_append_of_pos hfront, hrest.dropWhile_eq]

end

namespace Numeral

def IsDigits (text : List Char) : Prop := ∀ c ∈ text, isDigit c = true

theorem toNat_of_isDigit {c : Char} (h : isDigit c = true) : 48 ≤ c.toNat ∧ c.toNat ≤ 57 := by
  rw [isDigit, Bool.and_eq_true, decide_eq_true_eq, decide_eq_true_eq] at h
  exact h

theorem mem_of_isDigit {c : Char} (h : isDigit c = true) :
    c ∈ ['0', '1', '2', '3', '4', '5', '6', '7', '8', '9'] := by
  obtain ⟨hfirst, hlast⟩ := toNat_of_isDigit h
  rw [← Char.ofNat_toNat c]
  exact (by decide : ∀ n ≤ 57, 48 ≤ n → Char.ofNat n ∈
    ['0', '1', '2', '3', '4', '5', '6', '7', '8', '9']) c.toNat hlast hfirst

theorem isDigits_toDigits (n : Nat) : IsDigits (Nat.toDigits 10 n) := fun _ =>
  Nat.isDigit_of_mem_toDigits (by decide) (by decide)

theorem isDigits_zeros (count : Nat) : IsDigits (List.replicate count '0') := by
  intro c hc
  rw [List.eq_of_mem_replicate hc]
  decide

theorem IsDigits.append {a b : List Char} (ha : IsDigits a) (hb : IsDigits b) :
    IsDigits (a ++ b) := by
  intro c hc
  rcases List.mem_append.mp hc with hc | hc
  · exact ha c hc
  · exact hb c hc

theorem digitsValue_toDigits (n : Nat) : digitsValue (Nat.toDigits 10 n) = n :=
  Nat.ofDigitChars_ten_toDigits

theorem digitsValue_append (a b : List Char) :
    digitsValue (a ++ b) = 10 ^ b.length * digitsValue a + digitsValue b :=
  (Nat.ofDigitChars_append 0).trans Nat.ofDigitChars_eq_ofDigitChars_zero

theorem digitsValue_zeros (count : Nat) : digitsValue (List.replicate count '0') = 0 :=
  Nat.ofDigitChars_replicate_zero

theorem digitsValue_zeros_append (count : Nat) (digits : List Char) :
    digitsValue (List.replicate count '0' ++ digits) = digitsValue digits := by
  rw [digitsValue_append, digitsValue_zeros]
  omega

theorem digitsValue_lt {digits : List Char} (h : IsDigits digits) :
    digitsValue digits < 10 ^ digits.length := by
  induction digits using List.reverseRecOn with
  | nil => exact Nat.one_pos
  | append_singleton front c ih =>
    obtain ⟨hfirst, hlast⟩ := toNat_of_isDigit (h c (by simp))
    have hc : digitValue c < 10 := show c.toNat - 48 < 10 by omega
    have hfront := ih fun d hd => h d (List.mem_append_left _ hd)
    have hown : digitsValue [c] = digitValue c := by simp [digitsValue]
    rw [digitsValue_append, hown, List.length_append, List.length_singleton, Nat.pow_succ]
    omega

theorem length_toDigits_le {n k : Nat} (hk : 0 < k) (h : n < 10 ^ k) : (Nat.toDigits 10 n).length ≤ k :=
  (Nat.length_toDigits_le_iff (by decide) hk).mpr h

theorem head_toDigits_ne_zero {n : Nat} (hn : n ≠ 0) : (Nat.toDigits 10 n).head? ≠ some '0' := by
  induction n using Nat.strong_induction_on with
  | _ n ih =>
    rcases Nat.lt_or_ge n 10 with hlt | hge
    · exact (by decide : ∀ m < 10, m ≠ 0 → (Nat.toDigits 10 m).head? ≠ some '0') n hlt hn
    · have hhead := ih (n / 10) (by omega) (by omega)
      rw [Nat.toDigits_of_base_le (by decide) hge, List.head?_append]
      cases hdigits : Nat.toDigits 10 (n / 10) with
      | nil => exact absurd hdigits Nat.toDigits_ne_nil
      | cons c more =>
        rw [hdigits] at hhead
        exact hhead

theorem inInt64_toInt (i : Int64) : inInt64 i.toInt = true := by
  rw [inInt64, Bool.and_eq_true, decide_eq_true_eq, decide_eq_true_eq]
  exact ⟨i.minValue_le_toInt, i.toInt_le⟩

end Numeral

namespace CivilDate

open Numeral

theorem toList_padLeft (width n : Nat) : (padLeft width n).toList
    = List.replicate (width - (Nat.toDigits 10 n).length) '0' ++ Nat.toDigits 10 n :=
  String.toList_ofList

theorem isDigits_padLeft (width n : Nat) : IsDigits (padLeft width n).toList := by
  rw [toList_padLeft]
  exact (isDigits_zeros _).append (isDigits_toDigits n)

theorem digitsValue_padLeft (width n : Nat) : digitsValue (padLeft width n).toList = n := by
  rw [toList_padLeft, digitsValue_zeros_append, digitsValue_toDigits]

theorem length_padLeft {width n : Nat} (hwidth : 0 < width) (h : n < 10 ^ width) :
    (padLeft width n).toList.length = width := by
  have hle := length_toDigits_le hwidth h
  rw [toList_padLeft, List.length_append, List.length_replicate]
  omega

theorem length_padLeft_pos (width n : Nat) : 0 < (padLeft width n).toList.length := by
  have hpos := Nat.length_toDigits_pos (b := 10) (n := n)
  rw [toList_padLeft, List.length_append]
  omega

end CivilDate

namespace Calendar

open Numeral

section
variable {least most : Nat} {digits rest : List Char} (hdigits : IsDigits digits)
  (hleast : least ≤ digits.length)
include hdigits hleast

theorem readNumber_of_stops (hmost : digits.length ≤ most) (hrest : Stops isDigit rest) :
    readNumber least most (digits ++ rest) = some (digitsValue digits, rest) := by
  have htake : ((digits ++ rest).take most).takeWhile isDigit = digits := by
    have hstops : Stops isDigit (rest.take (most - digits.length)) := by
      intro c hc
      refine hrest c ?_
      rw [List.head?_take] at hc
      split at hc
      · cases hc
      · exact hc
    rw [List.take_append, List.take_of_length_le hmost, hstops.takeWhile_append hdigits]
  rw [readNumber, htake, if_neg (by omega), List.drop_left]

theorem readNumber_of_length (hmost : digits.length = most) :
    readNumber least most (digits ++ rest) = some (digitsValue digits, rest) := by
  have htake : ((digits ++ rest).take most).takeWhile isDigit = digits := by
    rw [← hmost, List.take_left, List.takeWhile_eq_self_iff]
    exact hdigits
  rw [readNumber, htake, if_neg (by omega), List.drop_left]

end

theorem readNumber_padLeft {least width n : Nat} (hleast : least ≤ width) (hwidth : 0 < width)
    (h : n < 10 ^ width) (rest : List Char) :
    readNumber least width ((CivilDate.padLeft width n).toList ++ rest) = some (n, rest) := by
  have hlength := CivilDate.length_padLeft hwidth h
  rw [readNumber_of_length (CivilDate.isDigits_padLeft width n) (by omega) hlength,
    CivilDate.digitsValue_padLeft]

end Calendar
end ReportFilters
