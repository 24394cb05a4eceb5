import Mathlib.Data.Rat.Cast.Order
import Mathlib.Tactic.Linarith
import Mathlib.Tactic.Positivity
import Mathlib.Tactic.Ring
import ReportFilters.Number.Shortest
import ReportFilters.Proofs.Number.Rounding

/-! The decimals in which double precision numbers are written. They are near enough to the number to
read back as it, and only zero has the digit zero alone. -/

namespace ReportFilters

def Decimal.value (d : Decimal) : ℚ := d.digits * (10 : ℚ) ^ d.exponent

theorem Decimal.value_withoutTrailingZeros (fuel : Nat) (d : Decimal) :
    (withoutTrailingZeros fuel d).value = d.value := by
  induction fuel generalizing d with
  | zero => rfl
  | succ fuel ih =>
    rw [withoutTrailingZeros]
    split
    next h =>
      have hdigits : d.digits = 10 * (d.digits / 10) := by omega
      rw [ih, value, value]
      simp only
      conv_rhs => rw [hdigits]
      rw [zpow_add_one₀ (by norm_num), Nat.cast_mul]
      push_cast
      ring
    next => rfl

theorem Decimal.withoutTrailingZeros_of_ne_zero (fuel : Nat) {d : Decimal} (h : d.digits ≠ 0) :
    (withoutTrailingZeros fuel d).digits ≠ 0 := by
  induction fuel generalizing d with
  | zero => exact h
  | succ fuel ih =>
    rw [withoutTrailingZeros]
    split
    next hzero =>
      have hshorter : d.digits / 10 ≠ 0 := by omega
      exact ih hshorter
    next => exact h

namespace Binary64

theorem unitsPerOne_pos : 0 < unitsPerOne := by decide +kernel

theorem spacing_le_max (units : Nat) : spacing units ≤ max 1 units := by
  have h := binade_log2 units
  rw [h.spacing_eq]
  generalize units.log2 - 52 = k at *
  rcases Nat.eq_zero_or_pos k with rfl | hk
  · exact le_max_left ..
  · have hpow : 2 ^ k ≤ 2 ^ (k + 52) := Nat.pow_le_pow_right (by decide) (by omega)
    exact le_max_of_le_right (hpow.trans (h.le (by omega)))

theorem Grid.exponent_ofExponent (e : Int) : (ofExponent e).exponent = e := by
  rw [ofExponent]
  split <;> rfl

theorem Grid.num_pos (e : Int) : 0 < (ofExponent e).num := by
  rw [ofExponent]
  split
  · exact Nat.one_pos
  · exact Nat.pow_pos (by decide)

theorem Grid.den_pos (e : Int) : 0 < (ofExponent e).den := by
  have hunit := unitsPerOne_pos
  rw [ofExponent]
  generalize unitsPerOne = unit at *
  split
  · exact Nat.mul_pos hunit (Nat.pow_pos (by decide))
  · exact hunit

theorem Grid.den_eq (e : Int) :
    ((ofExponent e).den : ℚ) = unitsPerOne * (10 : ℚ) ^ e * (ofExponent e).num := by
  rw [ofExponent]
  -- the unit is a large power of two, not to be computed with
  generalize unitsPerOne = unit
  split
  next he =>
    obtain ⟨n, rfl⟩ := Int.eq_ofNat_of_zero_le he
    rw [Nat.pow_eq, Int.toNat_natCast, zpow_natCast]
    push_cast
    rw [mul_one]
  next he =>
    obtain ⟨n, hn⟩ := Int.eq_ofNat_of_zero_le (show 0 ≤ -e by omega)
    have hpow : (10 : ℚ) ^ e * 10 ^ n = 1 := by
      rw [← zpow_natCast, ← hn, ← zpow_add₀ (by norm_num), Int.add_right_neg, zpow_zero]
    rw [Nat.pow_eq, hn, Int.toNat_natCast, Nat.cast_pow, Nat.cast_ofNat, mul_assoc, hpow, mul_one]

theorem Grid.hits_iff {g : Grid} {units point : Nat} : g.hits units point = true ↔
    (2 * units - spacing (units - 1)) * g.num ≤ 2 * (point * g.den) ∧
      2 * (point * g.den) ≤ (2 * units + spacing units) * g.num ∧
      (units / spacing units % 2 = 0 ∨ (2 * units - spacing (units - 1)) * g.num < 2 * (point * g.den) ∧
        2 * (point * g.den) < (2 * units + spacing units) * g.num) := by
  rw [hits, Nat.mul_assoc]
  split
  next heven =>
    rw [Bool.and_eq_true, decide_eq_true_eq, decide_eq_true_eq]
    exact ⟨fun h => ⟨h.1, h.2, .inl heven⟩, fun h => ⟨h.1, h.2.1⟩⟩
  next hodd =>
    rw [Bool.and_eq_true, decide_eq_true_eq, decide_eq_true_eq]
    exact ⟨fun h => ⟨h.1.le, h.2.le, .inr h⟩, fun h => h.2.2.resolve_left hodd⟩

theorem value_le_of_hits {e : Int} {units point : Nat} (h : (Grid.ofExponent e).hits units point) :
    2 * (unitsPerOne * (⟨point, e⟩ : Decimal).value) ≤ 2 * units + spacing units := by
  obtain ⟨-, hhigh, -⟩ := Grid.hits_iff.mp h
  have hcast : (2 * (point * (Grid.ofExponent e).den) : ℚ)
      ≤ (2 * units + spacing units) * (Grid.ofExponent e).num := by exact_mod_cast hhigh
  have hnum : (0 : ℚ) < (Grid.ofExponent e).num := by exact_mod_cast Grid.num_pos e
  refine le_of_mul_le_mul_right (le_of_eq_of_le ?_ hcast) hnum
  rw [Grid.den_eq, Decimal.value]
  ring

theorem not_hits_zero {units : Nat} (h : 0 < units) (e : Int) :
    (Grid.ofExponent e).hits units 0 = false := by
  have hspacing := spacing_le_max (units - 1)
  have hlow : 0 < (2 * units - spacing (units - 1)) * (Grid.ofExponent e).num :=
    Nat.mul_pos (by omega) (Grid.num_pos e)
  refine Bool.eq_false_iff.mpr fun hhits => ?_
  obtain ⟨hle, -, -⟩ := Grid.hits_iff.mp hhits
  rw [Nat.zero_mul] at hle
  exact absurd hle (Nat.not_le.mpr hlow)

theorem hits_of_pick {g : Grid} {tie : Tie} {units point : Nat} (h : g.pick tie units = some point) :
    g.hits units point := by
  rw [Grid.pick.eq_def] at h
  grind

theorem pick_isSome {g : Grid} (tie : Tie) {units : Nat} (h : 0 < units) (hden : 0 < g.den)
    (hfine : g.den < spacing (units - 1) * g.num) (hcoarse : g.den < spacing units * g.num) :
    (g.pick tie units).isSome := by
  have hdiv := Nat.div_add_mod (units * g.num) g.den
  have hlt := Nat.mod_lt (units * g.num) hden
  have hstep : spacing (units - 1) * g.num ≤ 2 * (units * g.num) := by
    have hspacing := spacing_le_max (units - 1)
    rw [← Nat.mul_assoc]
    exact Nat.mul_le_mul_right _ (by omega)
  have hhits : g.hits units (units * g.num / g.den) ∨ g.hits units (units * g.num / g.den + 1) := by
    have hlow : (2 * units - spacing (units - 1)) * g.num
        = 2 * (units * g.num) - spacing (units - 1) * g.num := by
      rw [Nat.sub_mul, Nat.mul_assoc]
    have hhigh : (2 * units + spacing units) * g.num = 2 * (units * g.num) + spacing units * g.num := by
      rw [Nat.add_mul, Nat.mul_assoc]
    have hbelow : units * g.num / g.den * g.den = g.den * (units * g.num / g.den) := Nat.mul_comm ..
    have habove : (units * g.num / g.den + 1) * g.den = g.den * (units * g.num / g.den) + g.den := by ring
    rw [Grid.hits_iff, Grid.hits_iff, hlow, hhigh, hbelow, habove]
    -- the nearer neighbour is half a grid step away at most, which is less than half a step
    rcases Nat.le_total (2 * (units * g.num % g.den)) g.den with hnear | hfar
    · exact .inl (by omega)
    · exact .inr (by omega)
  rw [Grid.pick.eq_def]
  grind

theorem le_leadingZeros {units fuel : Nat} (h : unitsPerOne ≤ units * 10 ^ fuel) :
    unitsPerOne ≤ units * 10 ^ (leadingZeros units fuel + 1) := by
  induction fuel generalizing units with
  | zero =>
    rw [leadingZeros]
    exact h.trans (Nat.mul_le_mul_left _ (by decide))
  | succ fuel ih =>
    rw [leadingZeros]
    split
    next hone => simpa using hone
    next =>
      rw [Nat.pow_succ', ← Nat.mul_assoc] at h ⊢
      exact ih h

theorem place_le {units : Nat} (h : 0 < units) :
    unitsPerOne * (10 : ℚ) ^ (decimalPlace units - 1) ≤ units := by
  rw [decimalPlace]
  split
  next hone =>
    have hquot : 0 < units / unitsPerOne := Nat.div_pos hone unitsPerOne_pos
    obtain ⟨n, hn⟩ := Nat.exists_eq_add_of_lt (Nat.length_toDigits_pos (b := 10) (n := units / unitsPerOne))
    have hpow : 10 ^ n ≤ units / unitsPerOne := by
      rcases Nat.eq_zero_or_pos n with rfl | hpos
      · exact hquot
      · refine Nat.le_of_not_lt fun hlt => ?_
        have := (Nat.length_toDigits_le_iff (by decide) hpos).mpr hlt
        omega
    have hle : unitsPerOne * 10 ^ n ≤ units :=
      (Nat.mul_le_mul_left _ hpow).trans (Nat.mul_div_le ..)
    rw [hn, show ((0 + n + 1 : Nat) : Int) - 1 = n by omega, zpow_natCast]
    exact_mod_cast hle
  next =>
    -- zeros are counted up to a limit that no number reaches
    have hfar : unitsPerOne ≤ 10 ^ 400 := by decide +kernel
    have hle := le_leadingZeros (hfar.trans (Nat.le_mul_of_pos_left _ h))
    generalize leadingZeros units 400 = zeros at *
    have hcast : (unitsPerOne : ℚ) ≤ units * 10 ^ (zeros + 1) := by exact_mod_cast hle
    rw [show -(zeros : Int) - 1 = -((zeros + 1 : Nat) : Int) by omega, zpow_neg, zpow_natCast]
    exact (div_le_iff₀ (by positivity)).mpr hcast

/-- Seventeen digits suffice: a sixteenth of its digits is less than a step of a number. -/
theorem pick_seventeen (tie : Tie) {units : Nat} (h : 0 < units) :
    ((Grid.ofExponent (decimalPlace units - 17)).pick tie units).isSome := by
  have hplace := place_le h
  generalize decimalPlace units = place at *
  obtain ⟨e, rfl⟩ : ∃ e, place = e + 17 := ⟨place - 17, (Int.sub_add_cancel ..).symm⟩
  rw [Int.add_sub_cancel]
  have hnum : (0 : ℚ) < (Grid.ofExponent e).num := by exact_mod_cast Grid.num_pos e
  have hden := Grid.den_eq e
  have hunits : units < 10 ^ 16 * spacing (units - 1) := by
    have hk := binade_log2 (units - 1)
    have hlt := hk.lt
    rw [hk.spacing_eq]
    rw [pow_add] at hlt
    have := Nat.two_pow_pos ((units - 1).log2 - 52)
    omega
  have hunit : unitsPerOne * (10 : ℚ) ^ e < spacing (units - 1) := by
    have hcast : (units : ℚ) < 10 ^ 16 * spacing (units - 1) := by exact_mod_cast hunits
    have hpow : (10 : ℚ) ^ (e + 17 - 1) = 10 ^ e * 10 ^ 16 := by
      rw [Int.add_sub_assoc, zpow_add₀ (by norm_num)]
      rfl
    rw [hpow] at hplace
    linarith
  have hfine : (Grid.ofExponent e).den < spacing (units - 1) * (Grid.ofExponent e).num := by
    have hcast : ((Grid.ofExponent e).den : ℚ) < spacing (units - 1) * (Grid.ofExponent e).num :=
      hden ▸ mul_lt_mul_of_pos_right hunit hnum
    exact_mod_cast hcast
  refine pick_isSome tie h (Grid.den_pos e) hfine (hfine.trans_le ?_)
  exact Nat.mul_le_mul_right _ (spacing_mono (Nat.sub_le ..))

theorem exists_hits_shortestFrom {tie : Tie} {units : Nat} {place : Int} {counts : List Nat}
    (h : ∃ count ∈ counts, ((Grid.ofExponent (place - count)).pick tie units).isSome) :
    ∃ e point, (Grid.ofExponent e).hits units point ∧
      shortestFrom tie units place counts = Decimal.withoutTrailingZeros 20 ⟨point, e⟩ := by
  induction counts with
  | nil =>
    obtain ⟨_, hmem, _⟩ := h
    cases hmem
  | cons count more ih =>
    rw [shortestFrom]
    split
    next point hpoint => exact ⟨_, point, hits_of_pick hpoint, by rw [Grid.exponent_ofExponent]⟩
    next hnone =>
      obtain ⟨other, hother, hsome⟩ := h
      rcases List.mem_cons.mp hother with rfl | hmore
      · rw [hnone] at hsome
        cases hsome
      · exact ih ⟨other, hmore, hsome⟩

theorem exists_hits_shortest (tie : Tie) {units : Nat} (h : 0 < units) :
    ∃ e point, (Grid.ofExponent e).hits units point ∧
      shortest tie units = Decimal.withoutTrailingZeros 20 ⟨point, e⟩ := by
  rw [shortest, if_neg h.ne']
  exact exists_hits_shortestFrom ⟨17, by decide, pick_seventeen tie h⟩

theorem digits_shortest_ne_zero (tie : Tie) {units : Nat} (h : 0 < units) :
    (shortest tie units).digits ≠ 0 := by
  obtain ⟨e, point, hhits, hshortest⟩ := exists_hits_shortest tie h
  rw [hshortest]
  refine Decimal.withoutTrailingZeros_of_ne_zero 20 ?_
  rintro rfl
  rw [not_hits_zero h] at hhits
  cases hhits

theorem shortest_eq_zero {tie : Tie} {units : Nat} (h : (shortest tie units).digits = 0) :
    units = 0 ∧ shortest tie units = ⟨0, 0⟩ := by
  rcases Nat.eq_zero_or_pos units with rfl | hpos
  · exact ⟨rfl, rfl⟩
  · exact absurd h (digits_shortest_ne_zero tie hpos)

theorem value_shortest_le (tie : Tie) (units : Nat) :
    2 * (unitsPerOne * (shortest tie units).value) ≤ 2 * units + spacing units := by
  rcases Nat.eq_zero_or_pos units with rfl | hpos
  · rw [shortest, if_pos rfl, Decimal.value, Nat.cast_zero, zero_mul, mul_zero, mul_zero]
    exact add_nonneg (by norm_num) (Nat.cast_nonneg _)
  · obtain ⟨e, point, hhits, hshortest⟩ := exists_hits_shortest tie hpos
    rw [hshortest, Decimal.value_withoutTrailingZeros]
    exact value_le_of_hits hhits

theorem value_shortest_le_halfway (tie : Tie) {units : Nat} (hexact : Exact units)
    (hne : units ≠ largest) : (shortest tie units).value ≤ halfwayToLargest := by
  have h := value_shortest_le tie units
  have hlt : units < 2 ^ (2045 + 53) := hexact.2.trans_eq (by decide +kernel)
  have hspacing : spacing units ≤ 2 ^ 2045 := spacing_le hlt
  have hunits : units + 2 * 2 ^ 2045 ≤ 2 ^ (2045 + 53) := add_two_steps_le hlt hexact.1 hne
  have htop : unitsPerOne * halfwayToLargest + 3 * Nat.pow 2 2044 = 2 ^ (2045 + 53) := by decide +kernel
  have hstep : 2 ^ 2045 = 2 * Nat.pow 2 2044 := by decide +kernel
  rw [hstep] at hspacing hunits
  rw [← htop] at hunits
  have hle : 2 * units + spacing units ≤ 2 * (unitsPerOne * halfwayToLargest) := by omega
  have hcast : (2 * units + spacing units : ℚ) ≤ 2 * (unitsPerOne * halfwayToLargest) := by
    exact_mod_cast hle
  have hunit : (0 : ℚ) < unitsPerOne := by exact_mod_cast unitsPerOne_pos
  have hmul : unitsPerOne * (shortest tie units).value ≤ unitsPerOne * halfwayToLargest := by linarith
  exact le_of_mul_le_mul_left hmul hunit

theorem nearest_of_hits {e : Int} {units point : Nat} (hexact : Exact units) (h : 0 < units)
    (hhits : (Grid.ofExponent e).hits units point) :
    nearest (point * (Grid.ofExponent e).den) (Grid.ofExponent e).num = units := by
  have hnum := Grid.num_pos e
  generalize Grid.ofExponent e = g at *
  obtain ⟨hlow, hhigh, htie⟩ := Grid.hits_iff.mp hhits
  rcases Nat.lt_or_ge (point * g.den) (units * g.num) with hlt | hge
  · exact nearest_eq_of_below hexact.1 hnum h hlt hlow (htie.imp_right And.left)
  · exact nearest_eq_of_above hexact.1 hnum hge hhigh (htie.imp_right And.right)

theorem nearest_shortest (tie : Tie) {units : Nat} (hexact : Exact units) {num den : Nat} (hden : 0 < den)
    (hvalue : (num : ℚ) = unitsPerOne * (shortest tie units).value * den) : nearest num den = units := by
  rcases Nat.eq_zero_or_pos units with rfl | hpos
  · have hzero : num = 0 := by
      rw [shortest, if_pos rfl, Decimal.value, Nat.cast_zero, zero_mul, mul_zero, zero_mul] at hvalue
      exact_mod_cast hvalue
    rw [hzero, nearest_zero hden]
  · obtain ⟨e, point, hhits, hshortest⟩ := exists_hits_shortest tie hpos
    rw [hshortest, Decimal.value_withoutTrailingZeros, Decimal.value] at hvalue
    have hcross : (num * (Grid.ofExponent e).num : ℚ) = point * (Grid.ofExponent e).den * den := by
      rw [hvalue, Grid.den_eq]
      ring
    rw [← nearest_of_hits hexact hpos hhits]
    exact nearest_congr hden (Grid.num_pos e) (by exact_mod_cast hcross)

end Binary64
end ReportFilters
