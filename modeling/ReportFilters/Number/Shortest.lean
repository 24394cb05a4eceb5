import ReportFilters.Number.Binary64

/-! The fewest decimal digits that read back as a given double precision number, and of these the
ones nearest to it. -/

namespace ReportFilters

structure Decimal where
  digits : Nat
  exponent : Int
deriving DecidableEq

inductive Tie where
  | up
  | even

namespace Decimal

def leadingExponent (d : Decimal) : Int := (Nat.toDigits 10 d.digits).length - 1 + d.exponent

def withoutTrailingZeros : Nat → Decimal → Decimal
  | 0, d => d
  | fuel + 1, d =>
    if d.digits ≠ 0 ∧ d.digits % 10 = 0 then
      withoutTrailingZeros fuel ⟨d.digits / 10, d.exponent + 1⟩
    else d

end Decimal

namespace Binary64

def leadingZeros (units : Nat) : Nat → Nat
  | 0 => 0
  | fuel + 1 => if unitsPerOne ≤ units * 10 then 0 else leadingZeros (units * 10) fuel + 1

/-- The `e` with `10 ^ (e - 1) ≤ x < 10 ^ e`. -/
def decimalPlace (units : Nat) : Int :=
  if unitsPerOne ≤ units then (Nat.toDigits 10 (units / unitsPerOne)).length
  else -leadingZeros units 400

/-- A grid of decimals: the point `n` stands for `n * den / num` units. -/
structure Grid where
  exponent : Int
  num : Nat
  den : Nat

def Grid.ofExponent (e : Int) : Grid :=
  if 0 ≤ e then ⟨e, 1, unitsPerOne * Nat.pow 10 e.toNat⟩
  else ⟨e, Nat.pow 10 (-e).toNat, unitsPerOne⟩

/-- Whether the grid point rounds to `units`. The ends of the interval belong to the number with
the even significand. -/
def Grid.hits (g : Grid) (units point : Nat) : Bool :=
  let low := (2 * units - spacing (units - 1)) * g.num
  let high := (2 * units + spacing units) * g.num
  let twice := 2 * point * g.den
  if units / spacing units % 2 = 0 then low ≤ twice && twice ≤ high
  else low < twice && twice < high

def Grid.pick (g : Grid) (tie : Tie) (units : Nat) : Option Nat :=
  let below := units * g.num / g.den
  let rest := 2 * (units * g.num % g.den)
  match g.hits units below, g.hits units (below + 1) with
  | false, false => none
  | true, false => some below
  | false, true => some (below + 1)
  | true, true =>
    if rest < g.den then some below
    else if g.den < rest then some (below + 1)
    else match tie with
      | .up => some (below + 1)
      | .even => some (if below % 2 = 0 then below else below + 1)

/-- Seventeen digits always suffice, so the last grid is never missed. -/
def shortestFrom (tie : Tie) (units : Nat) (place : Int) : List Nat → Decimal
  | [] => ⟨0, 0⟩
  | count :: more =>
    let g := Grid.ofExponent (place - count)
    match g.pick tie units with
    | some point => Decimal.withoutTrailingZeros 20 ⟨point, g.exponent⟩
    | none => shortestFrom tie units place more

def shortest (tie : Tie) (units : Nat) : Decimal :=
  if units = 0 then ⟨0, 0⟩
  else shortestFrom tie units (decimalPlace units)
    [1, 2, 3, 4, 5, 6, 7, 8, 9, 10, 11, 12, 13, 14, 15, 16, 17]

end Binary64
end ReportFilters
