import ReportFilters.Value.Basic

/-! How many values an operator takes, and what is left of a list of values for it: no nulls, and
no more than a fixed arity asks for. -/

namespace ReportFilters

inductive Arity where
  | fixed (count : Nat)
  /-- One value or more. -/
  | variadic
deriving DecidableEq

namespace Arity

def text : Arity → String
  | fixed count => toString count
  | variadic => "at least 1"

def prepare (arity : Arity) (values : List Value) : List Value :=
  let present := values.filter fun v => !v.isNull
  match arity with
  | fixed count => present.take count
  | variadic => present

def isMetBy (arity : Arity) (count : Nat) : Bool :=
  match arity with
  | fixed n => count = n
  | variadic => 0 < count

end Arity
end ReportFilters
