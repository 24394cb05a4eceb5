import ReportFilters.Json.Parser
import ReportFilters.Proofs.Json.Exact

/-! Numbers that are read are finite. A word of digits is in range, a division by a power of ten leaves it
there, and a product that is out of range is refused. -/

namespace ReportFilters

namespace Binary64

inductive IsFinite : Binary64 → Prop where
  | intro (negative : Bool) {units : Nat} (exact : Exact units) : IsFinite (finite negative units exact)

theorem isFinite_ofUnits (negative : Bool) {units : Nat} (h : Exact units) :
    (ofUnits negative units).IsFinite := by
  rw [ofUnits, dif_pos h]
  exact .intro negative h

theorem exact_zero : Exact 0 := by decide +kernel

end Binary64

namespace Json

open Binary64 (Exact nearest unitsPerOne)
open Numeral (digitsValue)

theorem unitsPerOne_le_powerUnits (exponent : Nat) : unitsPerOne ≤ powerUnits exponent := by
  have hone : powerUnits 0 = unitsPerOne := by
    rw [powerUnits_eq 0 (by decide), pow_zero, Nat.one_mul]
  rw [← hone]
  exact powerUnits_mono (Nat.zero_le exponent)

theorem exact_nearest_word {word : Nat} (h : word < wordLimit) : Exact (nearest (word * unitsPerOne) 1) := by
  have hlimit : nearest (wordLimit * unitsPerOne) 1 < Nat.pow 2 2098 := by decide +kernel
  refine ⟨Binary64.spacing_dvd_nearest .., lt_of_le_of_lt ?_ hlimit⟩
  exact Binary64.nearest_mono 1 (Nat.mul_le_mul_right _ h.le)

theorem exact_divided {units : Nat} (h : Exact units) (exponent : Nat) :
    Exact (nearest (units * unitsPerOne) (powerUnits exponent)) := by
  obtain ⟨hdvd, hlt⟩ := h
  have hone := unitsPerOne_le_powerUnits exponent
  have hpos : 0 < powerUnits exponent := Binary64.unitsPerOne_pos.trans_le hone
  refine ⟨Binary64.spacing_dvd_nearest .., lt_of_le_of_lt ?_ hlt⟩
  calc nearest (units * unitsPerOne) (powerUnits exponent)
      ≤ nearest (units * powerUnits exponent) (powerUnits exponent) :=
        Binary64.nearest_mono _ (Nat.mul_le_mul_left _ hone)
    _ = nearest units 1 := Binary64.nearest_congr hpos Nat.one_pos (Nat.mul_one _)
    _ = units := Binary64.nearest_one_of_dvd hdvd

theorem exact_of_scaleUnits {steps units scaled : Nat} {exponent : Int} (hexact : Exact units)
    (h : scaleUnits steps units exponent = some scaled) : Exact scaled := by
  induction steps generalizing units exponent with
  | zero => exact Option.some.inj h ▸ Binary64.exact_zero
  | succ steps ih =>
    rw [scaleUnits] at h
    split at h
    next hfar =>
      obtain ⟨_, hzero⟩ := Option.ite_none_right_eq_some.mp h
      exact Option.some.inj hzero ▸ Binary64.exact_zero
    next =>
      split at h
      next =>
        simp only [Option.ite_none_right_eq_some, Option.some_inj] at h
        exact h.2 ▸ h.1
      next =>
        split at h
        next => exact Option.some.inj h ▸ exact_divided hexact _
        next => exact ih (exact_divided hexact 308) h

theorem isFinite_of_realOfDigits {negative : Bool} {whole places : List Char} {exponent : Int} {x : Binary64}
    (h : realOfDigits negative whole places exponent = some x) : x.IsFinite := by
  have hwhole := (absorbDigits_le 0 whole).2.2 (by decide)
  have hplaces := (absorbDigits_le (absorbDigits 0 whole).1 places).2.2 hwhole
  obtain ⟨units, hunits, rfl⟩ := Option.map_eq_some_iff.mp h
  exact Binary64.isFinite_ofUnits negative (exact_of_scaleUnits (exact_nearest_word hplaces) hunits)

inductive Number.IsFinite : Number → Prop where
  | int (i : Int64) : IsFinite (.int i)
  | real {value : Option Binary64} (h : ∀ x, value = some x → x.IsFinite) : IsFinite (.real value)

theorem isFinite_integerOfDigits (negative : Bool) (whole : List Char) :
    (integerOfDigits negative whole).IsFinite := by
  rw [integerOfDigits]
  generalize (if negative then -(digitsValue whole : Int) else digitsValue whole) = value
  split
  next => exact .int _
  next =>
    split
    next hword =>
      have hfinite := Binary64.isFinite_ofUnits negative (exact_nearest_word (Int.ofNat_lt.mp hword))
      rw [Int.toNat_natCast]
      exact .real fun x hx => Option.some.inj hx ▸ hfinite
    next => exact .real fun _ => isFinite_of_realOfDigits

theorem isFinite_of_readNumber {text rest : List Char} {n : Number} (h : readNumber text = some (n, rest)) :
    n.IsFinite := by
  unfold readNumber at h
  split at h
  next negative _ _ =>
    simp only [Option.ite_none_left_eq_some, Option.bind_eq_bind, Option.bind_eq_some_iff] at h
    obtain ⟨_, ⟨places, _⟩, _, ⟨exponent, _⟩, _, h⟩ := h
    split at h
    · cases h
      exact isFinite_integerOfDigits ..
    · cases h
      exact .real fun _ => isFinite_of_realOfDigits

inductive IsFinite : Json → Prop where
  | null : IsFinite .null
  | bool (b : Bool) : IsFinite (.bool b)
  | number {n : Number} (h : n.IsFinite) : IsFinite (.number n)
  | string (s : Option String) : IsFinite (.string s)
  | list {items : List Json} (h : ∀ item ∈ items, IsFinite item) : IsFinite (.list items)
  | table {entries : List (Option String × Json)} (h : ∀ entry ∈ entries, IsFinite entry.2) :
    IsFinite (.table entries)

section
variable {fuel : Nat} {text rest : List Char}

theorem isFinite_of_readValue_succ {value : Json}
    (hitems : ∀ {text rest items}, readItems fuel text = some (items, rest) →
      ∀ item ∈ items, IsFinite item)
    (hentries : ∀ {text rest entries}, readEntries fuel text = some (entries, rest) →
      ∀ entry ∈ entries, IsFinite entry.2)
    (h : readValue (fuel + 1) text = some (value, rest)) : value.IsFinite := by
  rw [readValue] at h
  -- as the reader tells them apart: three words, a text, a list, a table, and otherwise a number
  split at h
  next =>
    cases h
    exact .null
  next =>
    cases h
    exact .bool true
  next =>
    cases h
    exact .bool false
  next =>
    obtain ⟨⟨s, _⟩, _, h⟩ := Option.map_eq_some_iff.mp h
    cases h
    exact .string s
  next =>
    split at h
    next =>
      cases h
      exact .list (List.forall_mem_nil _)
    next =>
      obtain ⟨⟨items, _⟩, hread, h⟩ := Option.map_eq_some_iff.mp h
      cases h
      exact .list (hitems hread)
  next =>
    split at h
    next =>
      cases h
      exact .table (List.forall_mem_nil _)
    next =>
      obtain ⟨⟨entries, _⟩, hread, h⟩ := Option.map_eq_some_iff.mp h
      cases h
      exact .table (hentries hread)
  next =>
    obtain ⟨⟨n, _⟩, hread, h⟩ := Option.map_eq_some_iff.mp h
    cases h
    exact .number (isFinite_of_readNumber hread)

theorem isFinite_of_readItems_succ {items : List Json}
    (hvalue : ∀ {text rest value}, readValue fuel text = some (value, rest) → IsFinite value)
    (hitems : ∀ {text rest items}, readItems fuel text = some (items, rest) →
      ∀ item ∈ items, IsFinite item)
    (h : readItems (fuel + 1) text = some (items, rest)) : ∀ item ∈ items, item.IsFinite := by
  rw [readItems] at h
  obtain ⟨⟨item, _⟩, hitem, h⟩ := Option.bind_eq_some_iff.mp h
  dsimp only at h
  split at h
  next =>
    obtain ⟨⟨more, _⟩, hmore, h⟩ := Option.bind_eq_some_iff.mp h
    cases h
    exact List.forall_mem_cons.mpr ⟨hvalue hitem, hitems hmore⟩
  next =>
    cases h
    exact List.forall_mem_singleton.mpr (hvalue hitem)
  next => cases h

theorem isFinite_of_readEntries_succ {entries : List (Option String × Json)}
    (hvalue : ∀ {text rest value}, readValue fuel text = some (value, rest) → IsFinite value)
    (hentries : ∀ {text rest entries}, readEntries fuel text = some (entries, rest) →
      ∀ entry ∈ entries, IsFinite entry.2)
    (h : readEntries (fuel + 1) text = some (entries, rest)) : ∀ entry ∈ entries, IsFinite entry.2 := by
  rw [readEntries] at h
  split at h
  next =>
    obtain ⟨⟨name, _⟩, _, h⟩ := Option.bind_eq_some_iff.mp h
    dsimp only at h
    split at h
    next =>
      obtain ⟨⟨value, _⟩, hread, h⟩ := Option.bind_eq_some_iff.mp h
      dsimp only at h
      split at h
      next =>
        obtain ⟨⟨more, _⟩, hmore, h⟩ := Option.bind_eq_some_iff.mp h
        cases h
        exact List.forall_mem_cons.mpr ⟨hvalue hread, hentries hmore⟩
      next =>
        cases h
        exact List.forall_mem_singleton.mpr (hvalue hread)
      next => cases h
    next => cases h
  next => cases h

end

theorem isFinite_of_read (fuel : Nat) :
    (∀ {text rest value}, readValue fuel text = some (value, rest) → IsFinite value) ∧
    (∀ {text rest items}, readItems fuel text = some (items, rest) → ∀ item ∈ items, IsFinite item) ∧
    (∀ {text rest entries}, readEntries fuel text = some (entries, rest) →
      ∀ entry ∈ entries, IsFinite entry.2) := by
  induction fuel with
  | zero =>
    simp only [readValue, readItems, readEntries, reduceCtorEq, false_implies, implies_true, and_self]
  | succ fuel ih =>
    obtain ⟨hvalue, hitems, hentries⟩ := ih
    exact ⟨isFinite_of_readValue_succ hitems hentries, isFinite_of_readItems_succ hvalue hitems,
      isFinite_of_readEntries_succ hvalue hentries⟩

theorem isFinite_of_parse? {s : String} {value : Json} (h : parse? s = some value) : value.IsFinite := by
  obtain ⟨⟨found, rest⟩, hread, h⟩ := Option.bind_eq_some_iff.mp h
  obtain ⟨_, hfound⟩ := Option.ite_none_right_eq_some.mp h
  exact Option.some.inj hfound ▸ (isFinite_of_read _).1 hread

end Json
end ReportFilters
