/-! Double precision numbers. A finite one is a sign and a whole count of units, the unit being the
smallest positive number `2 ^ -1074`, so that rounding and comparison are arithmetic on naturals. -/

namespace ReportFilters

namespace Binary64

def unitsPerOne : Nat := Nat.pow 2 1074

def spacing (units : Nat) : Nat := Nat.pow 2 (units.log2 - 52)

/-- No more than 53 significant bits, and below `2 ^ 1024`. -/
def Exact (units : Nat) : Prop := spacing units ∣ units ∧ units < Nat.pow 2 2098

instance : DecidablePred Exact := fun _ => inferInstanceAs (Decidable (_ ∧ _))

end Binary64

inductive Binary64 where
  | nan
  | infinite (negative : Bool)
  | finite (negative : Bool) (units : Nat) (exact : Binary64.Exact units)
deriving DecidableEq

namespace Binary64

/-- The multiple of the spacing nearest to `num / den` units; a tie goes to the even multiple. -/
def nearest (num den : Nat) : Nat :=
  let step := spacing (num / den)
  let whole := num / (den * step)
  let rest := 2 * (num % (den * step))
  if den * step < rest ∨ (rest = den * step ∧ whole % 2 = 1) then (whole + 1) * step
  else whole * step

def ofUnits (negative : Bool) (units : Nat) : Binary64 :=
  if exact : Exact units then .finite negative units exact else .infinite negative

def ofRatio (negative : Bool) (num den : Nat) : Binary64 :=
  ofUnits negative (nearest (num * unitsPerOne) den)

def ofInt (i : Int) : Binary64 := ofRatio (decide (i < 0)) i.natAbs 1

/-- The number nearest to `digits * 10 ^ exponent`. Outside four hundred decimal places either way
the answer is known without computing the power. -/
def ofDecimal (negative : Bool) (digits : Nat) (exponent : Int) : Binary64 :=
  let place := (Nat.toDigits 10 digits).length + exponent
  if digits = 0 ∨ place < -400 then ofUnits negative 0
  else if 400 < place then .infinite negative
  else if 0 ≤ exponent then ofRatio negative (digits * Nat.pow 10 exponent.toNat) 1
  else ofRatio negative digits (Nat.pow 10 (-exponent).toNat)

/-- Whole numbers only; one outside the range goes to the nearer end of it. -/
def toInt64? : Binary64 → Option Int64
  | .finite negative units _ =>
    if units % unitsPerOne = 0 then
      let size : Int := units / unitsPerOne
      let value := if negative then -size else size
      some (Int64.ofInt (max Int64.minValue.toInt (min Int64.maxValue.toInt value)))
    else none
  | _ => none

def sameNumber : Binary64 → Binary64 → Bool
  | .finite a m _, .finite b n _ => m = n && (a = b || m = 0)
  | .infinite a, .infinite b => a = b
  | _, _ => false

end Binary64
end ReportFilters
