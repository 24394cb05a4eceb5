import Mathlib.Tactic.ByContra
import ReportFilters.Json.Number
import ReportFilters.Proofs.Number.Digits
import ReportFilters.Proofs.Number.Rounding

/-! The word that the reader keeps of a number's digits, and its scaling by a power of ten. Both are
rounded, but the result is in range whenever the decimal is one that was written of a number. -/

namespace ReportFilters.Json

open Numeral (digitValue digitsValue IsDigits)

def appended (word : Nat) (digits : List Char) : Nat := Nat.ofDigitChars 10 digits word

theorem appended_eq (word : Nat) (digits : List Char) :
    appended word digits = 10 ^ digits.length * word + digitsValue digits := by
  rw [appended, Nat.ofDigitChars_eq_ofDigitChars_zero]
  rfl

theorem appended_cons (word : Nat) (c : Char) (rest : List Char) :
    appended word (c :: rest) = appended (10 * word + digitValue c) rest := by
  rw [appended, appended, Nat.ofDigitChars_cons, digitValue]

theorem le_appended (word : Nat) (digits : List Char) : 10 ^ digits.length * word ≤ appended word digits := by
  rw [appended_eq]
  exact Nat.le_add_right ..

theorem absorbDigits_le (word : Nat) (digits : List Char) :
    (absorbDigits word digits).2 ≤ digits.length ∧
      (absorbDigits word digits).1 * 10 ^ (digits.length - (absorbDigits word digits).2)
        ≤ appended word digits ∧
      (word < wordLimit → (absorbDigits word digits).1 < wordLimit) := by
  induction digits generalizing word with
  | nil => exact ⟨le_rfl, by simp [absorbDigits, appended, Nat.ofDigitChars], id⟩
  | cons c rest ih =>
    rw [absorbDigits]
    split
    next hfits =>
      obtain ⟨hcount, hvalue, hlimit⟩ := ih (10 * word + digitValue c)
      refine ⟨Nat.succ_le_succ hcount, ?_, fun _ => hlimit hfits⟩
      rw [List.length_cons, Nat.add_sub_add_right]
      exact hvalue
    next =>
      refine ⟨Nat.zero_le _, ?_, id⟩
      rw [Nat.sub_zero, Nat.mul_comm]
      exact le_appended ..

theorem absorbDigits_eq {word : Nat} {digits : List Char} (h : appended word digits < wordLimit) :
    absorbDigits word digits = (appended word digits, digits.length) := by
  induction digits generalizing word with
  | nil => rfl
  | cons c rest ih =>
    have hfits : 10 * word + digitValue c < wordLimit := by
      have := le_appended (10 * word + digitValue c) rest
      have := Nat.le_mul_of_pos_left (10 * word + digitValue c)
        (Nat.pow_pos (n := rest.length) (by decide : 0 < 10))
      rw [appended_cons] at h
      omega
    rw [absorbDigits, if_pos hfits, @ih (10 * word + digitValue c) h]
    rfl

section
variable {word exponent : Nat}

/-- What a word scaled by a power of ten may come to: the largest number that is written with such a
power, and otherwise what is closer to the largest number below that one than to it. -/
def ceiling (exponent : Nat) : Nat :=
  if 291 ≤ exponent then 17976931348623157 * 10 ^ 292 else Binary64.halfwayToLargest

def scaledUnits (word exponent : Nat) : Nat :=
  Binary64.nearest (Binary64.nearest (word * Binary64.unitsPerOne) 1 * powerUnits exponent)
    Binary64.unitsPerOne

theorem powerUnits_mono {higher : Nat} (h : exponent ≤ higher) : powerUnits exponent ≤ powerUnits higher :=
  Binary64.nearest_mono 1 (Nat.mul_le_mul_right _ (Nat.pow_le_pow_right (by decide) h))

theorem scaledUnits_mono {larger higher : Nat} (hword : word ≤ larger) (he : exponent ≤ higher) :
    scaledUnits word exponent ≤ scaledUnits larger higher :=
  Binary64.nearest_mono _ (Nat.mul_le_mul
    (Binary64.nearest_mono 1 (Nat.mul_le_mul_right _ hword)) (powerUnits_mono he))

theorem scaledUnits_top : ∀ exponent < 309, 288 ≤ exponent →
    scaledUnits (min (wordLimit - 1) (ceiling exponent / 10 ^ exponent)) exponent < Nat.pow 2 2098 := by
  decide +kernel

theorem scaledUnits_lt (hword : word < wordLimit) (he : exponent ≤ 308)
    (h : word * 10 ^ exponent ≤ ceiling exponent) : scaledUnits word exponent < Nat.pow 2 2098 := by
  have hle : word ≤ wordLimit - 1 := Nat.le_sub_one_of_lt hword
  rcases Nat.lt_or_ge exponent 288 with hlow | hhigh
  · -- even the largest word stays in range with the 288th power
    have htop : wordLimit - 1 ≤ min (wordLimit - 1) (ceiling 288 / 10 ^ 288) := by decide +kernel
    exact (scaledUnits_mono (hle.trans htop) hlow.le).trans_lt
      (scaledUnits_top 288 (by decide) (by decide))
  · have hquot : word ≤ ceiling exponent / 10 ^ exponent :=
      (Nat.le_div_iff_mul_le (Nat.pow_pos (by decide))).mpr h
    exact (scaledUnits_mono (le_min hle hquot) le_rfl).trans_lt
      (scaledUnits_top exponent (by omega) hhigh)

end

theorem scaleUnits_isSome_of_neg (steps units : Nat) {exponent : Int} (h : exponent < 0) :
    (scaleUnits steps units exponent).isSome := by
  induction steps generalizing units exponent with
  | zero => rfl
  | succ steps ih =>
    rw [scaleUnits, if_neg (by omega), if_neg (by omega)]
    split
    next => rfl
    next hfar => exact ih _ (by omega)

theorem scaleUnits_isSome {word : Nat} (hword : word < wordLimit) (steps : Nat) {exponent : Nat}
    (h : word * 10 ^ exponent ≤ ceiling exponent) :
    (scaleUnits (steps + 1) (Binary64.nearest (word * Binary64.unitsPerOne) 1) exponent).isSome := by
  rw [scaleUnits]
  split
  next hfar =>
    have hzero : word = 0 := by
      by_contra hne
      have hpow : ∀ n ≤ exponent, 10 ^ n ≤ 10 ^ exponent := fun _ => Nat.pow_le_pow_right (by decide)
      have hself : 10 ^ exponent ≤ word * 10 ^ exponent := Nat.le_mul_of_pos_left _ (by omega)
      have hceiling : ceiling exponent < 10 ^ 309 := by
        rw [ceiling, if_pos (by omega)]
        decide +kernel
      exact Nat.not_le_of_lt hceiling ((hpow 309 (by omega)).trans (hself.trans h))
    rw [hzero, if_pos (by decide +kernel)]
    rfl
  next hnear =>
    have hlt := scaledUnits_lt hword (by omega) h
    rw [if_pos (by omega), Int.toNat_natCast]
    have hexact : Binary64.Exact (scaledUnits word exponent) :=
      ⟨Binary64.spacing_dvd_nearest .., hlt⟩
    exact Option.isSome_of_eq_some (if_pos hexact)

theorem scaledWord_isSome {word : Nat} (hword : word < wordLimit) {exponent : Int}
    (h : ∀ n : Nat, exponent = n → word * 10 ^ n ≤ ceiling n) (negative : Bool) :
    (scaledWord negative word exponent).isSome := by
  rw [scaledWord, Option.isSome_map]
  rcases lt_or_ge exponent 0 with hneg | hnonneg
  · exact scaleUnits_isSome_of_neg 5 _ hneg
  · obtain ⟨n, rfl⟩ := Int.eq_ofNat_of_zero_le hnonneg
    exact scaleUnits_isSome hword 4 (h n rfl)

theorem realOfDigits_eq {whole places : List Char} (hwhole : IsDigits whole) (hshort : whole.length ≤ 16)
    (negative : Bool) (exponent : Int) :
    ∃ word dropped, realOfDigits negative whole places exponent
        = scaledWord negative word (exponent - places.length + (dropped : Nat)) ∧
      word < wordLimit ∧ word * 10 ^ dropped ≤ digitsValue (whole ++ places) ∧
      dropped ≤ places.length := by
  have hvalue : appended 0 whole = digitsValue whole := by
    rw [appended_eq, Nat.mul_zero, Nat.zero_add]
  have hfits : appended 0 whole < wordLimit := by
    have hlt := Numeral.digitsValue_lt hwhole
    have hpow : 10 ^ whole.length ≤ 10 ^ 16 := Nat.pow_le_pow_right (by decide) hshort
    rw [hvalue]
    exact hlt.trans_le (hpow.trans (by decide))
  obtain ⟨hused, hword, hlimit⟩ := absorbDigits_le (digitsValue whole) places
  refine ⟨(absorbDigits (digitsValue whole) places).1,
    places.length - (absorbDigits (digitsValue whole) places).2, ?_, hlimit (hvalue ▸ hfits), ?_,
    Nat.sub_le ..⟩
  · rw [realOfDigits, absorbDigits_eq hfits]
    simp only [hvalue]
    congr 1
    omega
  · rw [Numeral.digitsValue_append]
    exact hword.trans (appended_eq ..).le

end ReportFilters.Json
