import Mathlib.Tactic.LinearCombination
import ReportFilters.Proofs.Json.Real

/-! Numbers that JSON keeps. When the word of digits and the power of ten are both exact, the reader rounds
once, and the number comes back. -/

namespace ReportFilters

/-- Written with at most fifteen digits down to the last place, which is at most the 22nd after the
point. -/
def Binary64.IsShort : Binary64 → Prop
  | .finite _ units _ =>
    (shortest .even units).digits * 10 ^ (shortest .even units).exponent.toNat < 10 ^ 15 ∧
      -22 ≤ (shortest .even units).exponent
  | _ => False

namespace Json

open Numeral (digitsValue IsDigits)

theorem realOfDigits_of_lt {whole places : List Char} (h : digitsValue (whole ++ places) < wordLimit)
    (negative : Bool) (exponent : Int) : realOfDigits negative whole places exponent
      = scaledWord negative (digitsValue (whole ++ places)) (exponent - places.length) := by
  have hvalue : appended 0 whole = digitsValue whole := by
    rw [appended_eq, Nat.mul_zero, Nat.zero_add]
  rw [Numeral.digitsValue_append, ← appended_eq] at h ⊢
  have hwhole : appended 0 whole < wordLimit := by
    have hle := le_appended (digitsValue whole) places
    have hself := Nat.le_mul_of_pos_left (digitsValue whole)
      (Nat.pow_pos (n := places.length) (by decide : 0 < 10))
    omega
  rw [realOfDigits, absorbDigits_eq hwhole]
  simp only [hvalue, absorbDigits_eq h]
  congr 1
  omega

theorem powerUnits_eq : ∀ n ≤ 22, powerUnits n = 10 ^ n * Binary64.unitsPerOne := by decide +kernel

theorem nearest_word {word : Nat} (h : word < 2 ^ 53 ∨ 2 ∣ word ∧ word < 2 ^ 54) :
    Binary64.nearest (word * Binary64.unitsPerOne) 1 = word * Binary64.unitsPerOne := by
  have hunit : Binary64.unitsPerOne = 2 ^ 1074 := by decide +kernel
  refine Binary64.nearest_one_of_dvd ?_
  rw [hunit]
  generalize 1074 = n
  rcases h with hlt | ⟨⟨m, rfl⟩, hlt⟩
  · exact Binary64.spacing_dvd_mul_pow hlt n
  · have hsame : 2 * m * 2 ^ n = m * 2 ^ (n + 1) := by ring
    rw [hsame]
    exact Binary64.spacing_dvd_mul_pow (by omega) (n + 1)

theorem scaledWord_eq {word units : Nat} {exponent : Int} (hexact : Binary64.Exact units)
    (hword : word < 2 ^ 53 ∨ 2 ∣ word ∧ word < 2 ^ 54) (hlow : -22 ≤ exponent) (hhigh : exponent ≤ 22)
    (hvalue : word * (10 : ℚ) ^ exponent = (Binary64.shortest .even units).value) (negative : Bool) :
    scaledWord negative word exponent = some (.finite negative units hexact) := by
  have hscaled : scaleUnits 5 (word * Binary64.unitsPerOne) exponent = some units := by
    rcases lt_or_ge exponent 0 with hneg | hnonneg
    · obtain ⟨n, hn⟩ := Int.eq_ofNat_of_zero_le (show 0 ≤ -exponent by omega)
      rw [scaleUnits, if_neg (by omega), if_neg (by omega), if_pos (by omega), hn, Int.toNat_natCast,
        powerUnits_eq n (by omega)]
      refine congrArg some (Binary64.nearest_shortest .even hexact ?_ ?_)
      · exact Nat.mul_pos (Nat.pow_pos (by decide)) Binary64.unitsPerOne_pos
      · have hpow : (10 : ℚ) ^ exponent * 10 ^ n = 1 := by
          rw [← zpow_natCast, ← hn, ← zpow_add₀ (by norm_num), Int.add_right_neg, zpow_zero]
        rw [← hvalue]
        push_cast
        linear_combination (word * (Binary64.unitsPerOne : ℚ) ^ 2) * -hpow
    · obtain ⟨n, rfl⟩ := Int.eq_ofNat_of_zero_le hnonneg
      have hunits : Binary64.nearest (word * Binary64.unitsPerOne * (10 ^ n * Binary64.unitsPerOne))
          Binary64.unitsPerOne = units := by
        refine Binary64.nearest_shortest .even hexact Binary64.unitsPerOne_pos ?_
        rw [← hvalue, zpow_natCast]
        push_cast
        ring
      rw [scaleUnits, if_neg (by omega), if_pos (by omega), Int.toNat_natCast, powerUnits_eq n (by omega),
        hunits]
      exact if_pos hexact
  rw [scaledWord, nearest_word hword, hscaled, Option.map_some, Binary64.ofUnits, dif_pos hexact]

theorem realOfDigits_eq_of_account {units : Nat} (hexact : Binary64.Exact units)
    (hshort : (Binary64.shortest .even units).digits
      * 10 ^ (Binary64.shortest .even units).exponent.toNat < 10 ^ 15)
    (hplaces : -22 ≤ (Binary64.shortest .even units).exponent) {whole places : List Char} {exponent : Int}
    (haccount : Account (Binary64.shortest .even units) whole places exponent) (negative : Bool) :
    realOfDigits negative whole places exponent = some (.finite negative units hexact) := by
  have hzero := @Binary64.shortest_eq_zero .even units
  have hscale := fun word exponent hword hlow hhigh hvalue =>
    @scaledWord_eq word units exponent hexact hword hlow hhigh hvalue negative
  rw [Decimal.value] at hscale
  generalize Binary64.shortest .even units = d at *
  have hself := Nat.le_mul_of_pos_right d.digits (Nat.pow_pos (n := d.exponent.toNat) (by decide : 0 < 10))
  rcases haccount with ⟨hdigits, hexponent⟩ | ⟨hnonneg, hdigits, rfl, hone⟩
  · -- the word is the digits themselves, which a power larger than the 22nd would not leave short
    have hfits : digitsValue (whole ++ places) < wordLimit := by
      rw [hdigits]
      exact (hself.trans_lt hshort).trans (by decide)
    have hsmall : d.exponent ≤ 22 := by
      by_cases hd : d.digits = 0
      · rw [(hzero hd).2]
        decide
      · by_contra hlarge
        have hpow : 10 ^ 15 ≤ 10 ^ d.exponent.toNat := Nat.pow_le_pow_right (by decide) (by omega)
        have := Nat.le_mul_of_pos_left (10 ^ d.exponent.toNat) (Nat.pos_of_ne_zero hd)
        omega
    rw [realOfDigits_of_lt hfits, hdigits, hexponent]
    exact hscale _ _ (.inl (by omega)) hplaces hsmall rfl
  · -- the zero after the point makes the word ten times larger, but even
    have hten : d.digits * 10 ^ (d.exponent.toNat + 1) = 2 * (5 * (d.digits * 10 ^ d.exponent.toNat)) := by
      rw [pow_succ]
      ring
    have hfits : digitsValue (whole ++ places) < wordLimit := by
      rw [hdigits, hten, wordLimit]
      omega
    obtain ⟨n, hn⟩ := Int.eq_ofNat_of_zero_le hnonneg
    rw [realOfDigits_of_lt hfits, hdigits, hone]
    refine hscale _ _ (.inr ⟨hten ▸ Nat.dvd_mul_right .., by omega⟩) (by decide) (by decide) ?_
    rw [hn, Int.toNat_natCast, zpow_natCast]
    push_cast
    rw [zpow_neg_one, pow_succ]
    ring

theorem reads_writeReal_of_isShort {x : Binary64} (h : x.IsShort) :
    Reads (writeReal x) (.number (.real (some x))) := by
  cases x with
  | nan | infinite _ => exact absurd h id
  | finite negative units exact =>
    obtain ⟨hshort, hplaces⟩ := h
    obtain ⟨whole, places, exponent, hparts, haccount⟩ :=
      exists_parts fun hzero => (@Binary64.shortest_eq_zero .even units hzero).2
    have hreal := realOfDigits_eq_of_account exact hshort hplaces haccount negative
    exact hreal ▸ hparts.reads negative

end Json
end ReportFilters
