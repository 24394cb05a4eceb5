import Mathlib.Algebra.Order.Group.Nat
import Mathlib.Algebra.Order.Ring.Nat
import Mathlib.Data.Nat.Log
import Mathlib.Tactic.Ring
import ReportFilters.Number.Binary64

/-! Rounding to double precision. Numbers between neighbouring powers of two are rounded to multiples of
one step, and never past either power; so rounding keeps the order of numbers and what it gives needs
no further rounding. -/

namespace ReportFilters.Binary64

/-- The steps between numbers of this size are `2 ^ k`: there are 53 bits from the step up, and the last
of them is set unless the step is the smallest one. -/
structure Binade (k units : Nat) : Prop where
  lt : units < 2 ^ (k + 53)
  le : k ≠ 0 → 2 ^ (k + 52) ≤ units

theorem binade_log2 (units : Nat) : Binade (units.log2 - 52) units := by
  constructor
  · have hpow : 2 ^ (units.log2 + 1) ≤ 2 ^ (units.log2 - 52 + 53) :=
      Nat.pow_le_pow_right (by decide) (by omega)
    exact Nat.lt_log2_self.trans_le hpow
  · intro hk
    have hne : units ≠ 0 := by
      rintro rfl
      exact hk rfl
    rw [show units.log2 - 52 + 52 = units.log2 by omega]
    exact Nat.log2_self_le hne

theorem Binade.eq {k units : Nat} (h : Binade k units) : units.log2 - 52 = k := by
  have hown := binade_log2 units
  rcases Nat.lt_trichotomy (units.log2 - 52) k with hlt | heq | hgt
  · have hpow : 2 ^ (units.log2 - 52 + 53) ≤ 2 ^ (k + 52) := Nat.pow_le_pow_right (by decide) (by omega)
    have := hown.lt
    have := h.le (by omega)
    omega
  · exact heq
  · have hpow : 2 ^ (k + 53) ≤ 2 ^ (units.log2 - 52 + 52) := Nat.pow_le_pow_right (by decide) (by omega)
    have := h.lt
    have := hown.le (by omega)
    omega

theorem Binade.spacing_eq {k units : Nat} (h : Binade k units) : spacing units = 2 ^ k := by
  rw [spacing, h.eq]
  rfl

section
variable {units n : Nat} (h : units < 2 ^ (n + 53))
include h

theorem Binade.le_of_lt {k : Nat} (hk : Binade k units) : k ≤ n := by
  by_contra hlt
  have hpow : 2 ^ (n + 53) ≤ 2 ^ (k + 52) := Nat.pow_le_pow_right (by decide) (by omega)
  have := hk.le (by omega)
  omega

theorem spacing_le : spacing units ≤ 2 ^ n := by
  have hk := binade_log2 units
  rw [hk.spacing_eq]
  exact Nat.pow_le_pow_right (by decide) (hk.le_of_lt h)

theorem add_two_steps_le (hdvd : spacing units ∣ units) (hne : units ≠ (2 ^ 53 - 1) * 2 ^ n) :
    units + 2 * 2 ^ n ≤ 2 ^ (n + 53) := by
  have hk := binade_log2 units
  have hle := hk.le_of_lt h
  rw [hk.spacing_eq] at hdvd
  generalize units.log2 - 52 = k at *
  rcases Nat.lt_or_eq_of_le hle with hlt | rfl
  · have hlow : 2 ^ (k + 53) ≤ 2 ^ (n + 52) := Nat.pow_le_pow_right (by decide) (by omega)
    have hsteps : 2 ^ (n + 1) ≤ 2 ^ (n + 52) := Nat.pow_le_pow_right (by decide) (by omega)
    have := hk.lt
    rw [pow_succ] at hsteps
    rw [show n + 53 = n + 52 + 1 from rfl, pow_succ]
    omega
  · obtain ⟨m, rfl⟩ := hdvd
    have hpow : 2 ^ (k + 53) = 2 ^ 53 * 2 ^ k := by rw [← pow_add, Nat.add_comm]
    rw [hpow, Nat.mul_comm] at h
    have hm : m < 2 ^ 53 := Nat.lt_of_mul_lt_mul_right h
    have hlast : m ≠ 2 ^ 53 - 1 := by
      rintro rfl
      exact hne (Nat.mul_comm ..)
    calc 2 ^ k * m + 2 * 2 ^ k = (m + 2) * 2 ^ k := by rw [Nat.add_mul, Nat.mul_comm]
      _ ≤ 2 ^ 53 * 2 ^ k := Nat.mul_le_mul_right _ (by omega)
      _ = 2 ^ (k + 53) := hpow.symm

end

theorem spacing_mono {units more : Nat} (h : units ≤ more) : spacing units ≤ spacing more := by
  have hmore := binade_log2 more
  rw [hmore.spacing_eq]
  exact spacing_le (h.trans_lt hmore.lt)

def roundBy (step num den : Nat) : Nat :=
  if den * step < 2 * (num % (den * step)) ∨
      (2 * (num % (den * step)) = den * step ∧ num / (den * step) % 2 = 1) then
    (num / (den * step) + 1) * step
  else num / (den * step) * step

theorem nearest_eq_roundBy {k num den : Nat} (h : Binade k (num / den)) :
    nearest num den = roundBy (2 ^ k) num den := by
  rw [nearest, h.spacing_eq]
  rfl

section
variable {step num den : Nat}

theorem le_roundBy : num / (den * step) * step ≤ roundBy step num den := by
  rw [roundBy]
  split
  · exact Nat.mul_le_mul_right _ (Nat.le_succ _)
  · exact le_rfl

theorem roundBy_le : roundBy step num den ≤ (num / (den * step) + 1) * step := by
  rw [roundBy]
  split
  · exact le_rfl
  · exact Nat.mul_le_mul_right _ (Nat.le_succ _)

theorem dvd_roundBy : step ∣ roundBy step num den := by
  rw [roundBy]
  split <;> exact Nat.dvd_mul_left ..

theorem roundBy_mono {more : Nat} (h : num ≤ more) : roundBy step num den ≤ roundBy step more den := by
  rcases Nat.lt_or_eq_of_le (Nat.div_le_div_right (c := den * step) h) with hlt | heq
  · exact roundBy_le.trans ((Nat.mul_le_mul_right _ hlt).trans le_roundBy)
  · have hrest : num % (den * step) ≤ more % (den * step) := by
      have hnum := Nat.div_add_mod num (den * step)
      have hmore := Nat.div_add_mod more (den * step)
      rw [heq] at hnum
      omega
    rw [roundBy, roundBy, heq]
    split
    next hup =>
      split
      · exact le_rfl
      next hdown =>
        refine absurd ?_ hdown
        rcases hup with hup | ⟨htie, hodd⟩
        · exact .inl (by omega)
        · rcases Nat.lt_or_eq_of_le hrest with hlt | hsame
          · exact .inl (by omega)
          · exact .inr ⟨by omega, hodd⟩
    next => exact le_roundBy

end

theorem Binade.roundBy_le_pow {k num den : Nat} (h : Binade k (num / den)) :
    roundBy (2 ^ k) num den ≤ 2 ^ (k + 53) := by
  have hlt : num / (den * 2 ^ k) < 2 ^ 53 := by
    rw [← Nat.div_div_eq_div_mul]
    exact Nat.div_lt_of_lt_mul (by rw [← pow_add]; exact h.lt)
  calc roundBy (2 ^ k) num den ≤ (num / (den * 2 ^ k) + 1) * 2 ^ k := roundBy_le
    _ ≤ 2 ^ 53 * 2 ^ k := Nat.mul_le_mul_right _ hlt
    _ = 2 ^ (k + 53) := by rw [← pow_add, Nat.add_comm]

theorem Binade.pow_le_roundBy {k num den : Nat} (h : Binade k (num / den)) (hk : k ≠ 0) :
    2 ^ (k + 52) ≤ roundBy (2 ^ k) num den := by
  have hle : 2 ^ 52 ≤ num / (den * 2 ^ k) := by
    rw [← Nat.div_div_eq_div_mul]
    exact (Nat.le_div_iff_mul_le (Nat.two_pow_pos k)).mpr (by rw [← pow_add, Nat.add_comm]; exact h.le hk)
  calc 2 ^ (k + 52) = 2 ^ 52 * 2 ^ k := by rw [← pow_add, Nat.add_comm]
    _ ≤ num / (den * 2 ^ k) * 2 ^ k := Nat.mul_le_mul_right _ hle
    _ ≤ roundBy (2 ^ k) num den := le_roundBy

theorem nearest_mono {num more : Nat} (den : Nat) (h : num ≤ more) : nearest num den ≤ nearest more den := by
  have hnum := binade_log2 (num / den)
  have hmore := binade_log2 (more / den)
  rw [nearest_eq_roundBy hnum, nearest_eq_roundBy hmore]
  generalize (num / den).log2 - 52 = k at *
  generalize (more / den).log2 - 52 = l at *
  rcases Nat.lt_trichotomy k l with hlt | heq | hgt
  · have hpow : 2 ^ (k + 53) ≤ 2 ^ (l + 52) := Nat.pow_le_pow_right (by decide) (by omega)
    exact hnum.roundBy_le_pow.trans (hpow.trans (hmore.pow_le_roundBy (by omega)))
  · rw [heq]
    exact roundBy_mono h
  · have hpow : 2 ^ (l + 53) ≤ 2 ^ (k + 52) := Nat.pow_le_pow_right (by decide) (by omega)
    have hquot : num / den ≤ more / den := Nat.div_le_div_right h
    have := hmore.lt
    have := hnum.le (by omega)
    omega

theorem spacing_dvd_nearest (num den : Nat) : spacing (nearest num den) ∣ nearest num den := by
  have h := binade_log2 (num / den)
  rw [nearest_eq_roundBy h]
  generalize (num / den).log2 - 52 = k at *
  rcases Nat.lt_or_eq_of_le h.roundBy_le_pow with hlt | heq
  · have hown : Binade k (roundBy (2 ^ k) num den) := ⟨hlt, h.pow_le_roundBy⟩
    rw [hown.spacing_eq]
    exact dvd_roundBy
  · -- rounded up to the next power of two, where the steps are twice as long
    have hown : Binade (k + 1) (2 ^ (k + 53)) :=
      ⟨Nat.pow_lt_pow_right (by decide) (by omega), fun _ => Nat.pow_le_pow_right (by decide) (by omega)⟩
    rw [heq, hown.spacing_eq]
    exact pow_dvd_pow 2 (by omega)

theorem roundBy_mul_right {k : Nat} (hk : 0 < k) (step num den : Nat) :
    roundBy step (num * k) (den * k) = roundBy step num den := by
  have hden : den * k * step = den * step * k := by ring
  have hquot : num * k / (den * step * k) = num / (den * step) := Nat.mul_div_mul_right _ _ hk
  have hrest : num * k % (den * step * k) = num % (den * step) * k := Nat.mul_mod_mul_right ..
  have hup : den * step * k < 2 * (num % (den * step) * k) ↔ den * step < 2 * (num % (den * step)) := by
    rw [← Nat.mul_assoc, Nat.mul_lt_mul_right hk]
  have htie : 2 * (num % (den * step) * k) = den * step * k ↔ 2 * (num % (den * step)) = den * step := by
    rw [← Nat.mul_assoc, Nat.mul_left_inj hk.ne']
  rw [roundBy, roundBy, hden, hquot, hrest]
  simp only [hup, htie]

theorem nearest_congr {num den num' den' : Nat} (hden : 0 < den) (hden' : 0 < den')
    (h : num * den' = num' * den) : nearest num den = nearest num' den' := by
  have hscale : ∀ n d k : Nat, 0 < k → nearest (n * k) (d * k) = nearest n d := by
    intro n d k hk
    have hquot : n * k / (d * k) = n / d := Nat.mul_div_mul_right _ _ hk
    rw [nearest_eq_roundBy (binade_log2 (n * k / (d * k))), hquot, roundBy_mul_right hk,
      ← nearest_eq_roundBy (binade_log2 (n / d))]
  rw [← hscale num den den' hden', h, Nat.mul_comm den, hscale num' den' den hden]

theorem nearest_zero {den : Nat} (hden : 0 < den) : nearest 0 den = 0 := by
  have hk : Binade 0 (0 / den) := by
    rw [Nat.zero_div]
    exact ⟨by decide, fun h => absurd rfl h⟩
  rw [nearest_eq_roundBy hk, roundBy, Nat.zero_mod, Nat.zero_div, if_neg (by omega), Nat.zero_mul]

theorem nearest_one_of_dvd {units : Nat} (h : spacing units ∣ units) : nearest units 1 = units := by
  have hk := binade_log2 units
  have hquot : units / 1 = units := Nat.div_one _
  rw [nearest_eq_roundBy (by rw [hquot]; exact hk), roundBy, Nat.one_mul]
  rw [hk.spacing_eq] at h
  rw [Nat.mod_eq_zero_of_dvd h]
  have hpos := Nat.two_pow_pos (units.log2 - 52)
  rw [if_neg (by omega)]
  exact Nat.div_mul_cancel h

theorem spacing_dvd_mul_pow {m : Nat} (hm : m < 2 ^ 53) (j : Nat) : spacing (m * 2 ^ j) ∣ m * 2 ^ j := by
  have hlt : m * 2 ^ j < 2 ^ (j + 53) := by
    rw [pow_add, Nat.mul_comm]
    exact Nat.mul_lt_mul_of_pos_left hm (Nat.two_pow_pos j)
  have hk := binade_log2 (m * 2 ^ j)
  rw [hk.spacing_eq]
  exact (pow_dvd_pow 2 (hk.le_of_lt hlt)).mul_left m

section
variable {step m num den : Nat}

theorem roundBy_eq_of_above (hle : m * (den * step) ≤ num) (hhigh : 2 * num ≤ (2 * m + 1) * (den * step))
    (hpos : 0 < den * step) (htie : m % 2 = 0 ∨ 2 * num < (2 * m + 1) * (den * step)) :
    roundBy step num den = m * step := by
  rw [roundBy]
  generalize den * step = size at *
  have hexpand : (2 * m + 1) * size = 2 * (m * size) + size := by ring
  have hquot : num / size = m :=
    Nat.div_eq_of_lt_le hle (by rw [Nat.succ_mul]; omega)
  have hrest : num % size = num - m * size := by rw [Nat.mod_eq_sub_div_mul, hquot]
  rw [hquot, hrest, if_neg (by omega)]

theorem roundBy_eq_of_below (hlt : num < (m + 1) * (den * step))
    (hlow : (2 * m + 1) * (den * step) ≤ 2 * num)
    (htie : m % 2 = 1 ∨ (2 * m + 1) * (den * step) < 2 * num) :
    roundBy step num den = (m + 1) * step := by
  rw [roundBy]
  generalize den * step = size at *
  have hexpand : (2 * m + 1) * size = 2 * (m * size) + size := by ring
  have hquot : num / size = m := Nat.div_eq_of_lt_le (by omega) hlt
  have hrest : num % size = num - m * size := by rw [Nat.mod_eq_sub_div_mul, hquot]
  rw [hquot, hrest, if_pos (by omega)]

end

section
variable {k m num den : Nat} (hden : 0 < den)
include hden

theorem Binade.div_of_above (hk : Binade k (2 ^ k * m)) (hle : m * (den * 2 ^ k) ≤ num)
    (hhigh : 2 * num ≤ (2 * m + 1) * (den * 2 ^ k)) : Binade k (num / den) := by
  have hpos : 0 < den * 2 ^ k := Nat.mul_pos hden (Nat.two_pow_pos k)
  constructor
  · have hm : m < 2 ^ 53 := by
      have hlt := hk.lt
      rw [pow_add] at hlt
      exact Nat.lt_of_mul_lt_mul_left hlt
    have hmost : (m + 1) * (den * 2 ^ k) ≤ 2 ^ 53 * (den * 2 ^ k) := Nat.mul_le_mul_right _ hm
    have hexpand : (2 * m + 1) * (den * 2 ^ k) + den * 2 ^ k = 2 * ((m + 1) * (den * 2 ^ k)) := by ring
    refine Nat.div_lt_of_lt_mul ?_
    calc num < (m + 1) * (den * 2 ^ k) := by omega
      _ ≤ 2 ^ 53 * (den * 2 ^ k) := hmost
      _ = den * 2 ^ (k + 53) := by rw [pow_add]; ring
  · intro hne
    refine (hk.le hne).trans ((Nat.le_div_iff_mul_le hden).mpr ?_)
    calc 2 ^ k * m * den = m * (den * 2 ^ k) := by ring
      _ ≤ num := hle

theorem Binade.div_of_below (hk : Binade k (2 ^ k * (m + 1) - 1)) (hlt : num < 2 ^ k * (m + 1) * den)
    (hlow : (2 * m + 1) * (den * 2 ^ k) ≤ 2 * num) : Binade k (num / den) := by
  have hown := hk.lt
  constructor
  · refine Nat.div_lt_of_lt_mul (hlt.trans_le ?_)
    rw [Nat.mul_comm den]
    exact Nat.mul_le_mul_right _ (by omega)
  · intro hne
    have hm : 2 ^ 52 ≤ m := by
      have hle := hk.le hne
      have hpos : 0 < 2 ^ k * (m + 1) := Nat.mul_pos (Nat.two_pow_pos k) (by omega)
      have hlt : 2 ^ k * 2 ^ 52 < 2 ^ k * (m + 1) := by
        rw [← pow_add]
        omega
      exact Nat.le_of_lt_succ (Nat.lt_of_mul_lt_mul_left hlt)
    refine (Nat.le_div_iff_mul_le hden).mpr ?_
    have hmost : 2 ^ 52 * (den * 2 ^ k) ≤ m * (den * 2 ^ k) := Nat.mul_le_mul_right _ hm
    have hexpand : (2 * m + 1) * (den * 2 ^ k) = 2 * (m * (den * 2 ^ k)) + den * 2 ^ k := by ring
    calc 2 ^ (k + 52) * den = 2 ^ 52 * (den * 2 ^ k) := by rw [pow_add]; ring
      _ ≤ num := by omega

end

theorem odd_of_even_steps {k l m : Nat} (hkl : k ≤ l) (hdvd : 2 ^ l ∣ 2 ^ k * (m + 1))
    (heven : 2 ^ k * (m + 1) / 2 ^ l % 2 = 0) : m % 2 = 1 := by
  have hstep := Nat.two_pow_pos k
  rcases Nat.eq_or_lt_of_le hkl with rfl | hlt
  · rw [Nat.mul_div_cancel_left _ hstep] at heven
    omega
  · obtain ⟨i, rfl⟩ := Nat.exists_eq_add_of_lt hlt
    obtain ⟨j, hj⟩ := hdvd
    have hcancel : m + 1 = 2 * (2 ^ i * j) := by
      refine Nat.eq_of_mul_eq_mul_left hstep (hj.trans ?_)
      rw [pow_succ, pow_add]
      ring
    omega

section
variable {units num den : Nat} (hdvd : spacing units ∣ units) (hden : 0 < den)
include hdvd hden

theorem nearest_eq_of_above (hle : units * den ≤ num) (hhigh : 2 * num ≤ (2 * units + spacing units) * den)
    (htie : units / spacing units % 2 = 0 ∨ 2 * num < (2 * units + spacing units) * den) :
    nearest num den = units := by
  have hk := binade_log2 units
  rw [hk.spacing_eq] at *
  generalize units.log2 - 52 = k at *
  obtain ⟨m, rfl⟩ := hdvd
  have hstep := Nat.two_pow_pos k
  have hsize : (2 * (2 ^ k * m) + 2 ^ k) * den = (2 * m + 1) * (den * 2 ^ k) := by ring
  have hunits : 2 ^ k * m * den = m * (den * 2 ^ k) := by ring
  rw [hunits] at hle
  rw [hsize] at hhigh htie
  rw [Nat.mul_div_cancel_left _ hstep] at htie
  rw [nearest_eq_roundBy (hk.div_of_above hden hle hhigh),
    roundBy_eq_of_above hle hhigh (Nat.mul_pos hden hstep) htie, Nat.mul_comm]

/-- From half a step below a number of double precision up to it. Below a power of two the steps are
half as long as above, and the power of two is an even number of them. -/
theorem nearest_eq_of_below (hpos : 0 < units) (hlt : num < units * den)
    (hlow : (2 * units - spacing (units - 1)) * den ≤ 2 * num)
    (htie : units / spacing units % 2 = 0 ∨ (2 * units - spacing (units - 1)) * den < 2 * num) :
    nearest num den = units := by
  have hk := binade_log2 (units - 1)
  have hl := binade_log2 units
  rw [hk.spacing_eq] at hlow htie
  rw [hl.spacing_eq] at hdvd htie
  generalize (units - 1).log2 - 52 = k at *
  generalize units.log2 - 52 = l at *
  have hkl : k ≤ l := Binade.le_of_lt (by have := hl.lt; omega) hk
  -- counted in the steps below it, which divide the steps above it
  obtain ⟨n, rfl⟩ := (pow_dvd_pow 2 hkl).trans hdvd
  obtain ⟨m, rfl⟩ : ∃ m, n = m + 1 := Nat.exists_eq_succ_of_ne_zero (by rintro rfl; simp at hpos)
  have hsize : (2 * (2 ^ k * (m + 1)) - 2 ^ k) * den = (2 * m + 1) * (den * 2 ^ k) := by
    rw [show 2 * (2 ^ k * (m + 1)) - 2 ^ k = (2 * m + 1) * 2 ^ k by
      rw [Nat.sub_eq_iff_eq_add (by rw [Nat.mul_add]; omega)]; ring]
    ring
  have hunits : 2 ^ k * (m + 1) * den = (m + 1) * (den * 2 ^ k) := by ring
  rw [hsize] at hlow htie
  have hodd := htie.imp_left (odd_of_even_steps hkl hdvd)
  rw [nearest_eq_roundBy (hk.div_of_below hden hlt hlow), roundBy_eq_of_below (hunits ▸ hlt) hlow hodd,
    Nat.mul_comm]

end

def largest : Nat := (2 ^ 53 - 1) * 2 ^ 2045

def halfwayToLargest : Nat := Nat.pow 2 1024 - 3 * Nat.pow 2 970

end ReportFilters.Binary64
