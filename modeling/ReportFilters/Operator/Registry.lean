import ReportFilters.Dictionary
import ReportFilters.Operator.Basic

/-! Operators by token. Registered operators come before built-in ones of the same token. -/

namespace ReportFilters

inductive OperatorGroup where
  | default | null | integer | string | time | money | status
deriving DecidableEq

namespace OperatorGroup

def operators : OperatorGroup → List Builtin
  | default => [.equal, .notEqual]
  | null => [.equal, .notEqual, .empty, .any]
  | integer => [.equal, .notEqual, .lessOrEqual, .greaterOrEqual, .empty, .any]
  | string => [.equal, .notEqual, .contains, .notContains, .empty, .any]
  | time =>
    [.today, .thisWeek, .daysAhead, .daysAgo, .beforeDaysAhead, .afterDaysAhead, .beforeDaysAgo,
      .afterDaysAgo, .onDate, .beforeDate, .afterDate, .betweenDates]
  | money => [.numericEqual, .zero, .lessOrEqual, .greaterOrEqual, .present, .absent]
  | status => [.opened, .closed, .equal, .notEqual, .any]

def tokens (group : OperatorGroup) : List String := group.operators.map Builtin.token

def name : OperatorGroup → String
  | default => "default_operators"
  | null => "null_operators"
  | integer => "integer_operators"
  | string => "string_operators"
  | time => "time_operators"
  | money => "money_operators"
  | status => "status_operators"

def all : List OperatorGroup := [default, null, integer, string, time, money, status]

def ofName? (name : String) : Option OperatorGroup := all.find? fun group => group.name = name

end OperatorGroup

structure Registry where
  custom : Dictionary CustomOperator

namespace Registry

def empty : Registry := ⟨[]⟩

def lookup? (registry : Registry) (token : String) : Option Operator :=
  match registry.custom.get? token with
  | some op => some (.custom op)
  | none => (Builtin.ofToken? token).map .builtin

def lookup (registry : Registry) (token : String) : Except Error Operator :=
  match registry.lookup? token with
  | some op => .ok op
  | none => .error (Error.unknownOperator token)

def contains (registry : Registry) (token : String) : Bool :=
  registry.custom.has token || (Builtin.ofToken? token).isSome

/-- The operator that had the token before, and the registry with the new one. -/
def register (registry : Registry) (op : CustomOperator) : Option Operator × Registry :=
  (registry.lookup? op.token, ⟨registry.custom.put op.token op⟩)

def tokens (registry : Registry) : List String :=
  let builtin := Builtin.all.map Builtin.token
  builtin ++ registry.custom.names.filter fun token => !builtin.contains token

def shown (registry : Registry) : String :=
  "OperatorRegistry \x7b custom: " ++ Text.bracketed (registry.custom.names.map Text.quoted)
    ++ " \x7d"

end Registry
end ReportFilters
