import ReportFilters.Catalog.FilterType

/-! A filter: a type, an operator of that type and values. Values are taken as they come; whether
the operator accepts them is asked later. -/

namespace ReportFilters

structure Filter where
  type : FilterType
  /-- Chosen when the filter is made, used as long as no operator is assigned. -/
  default : Operator
  explicit : Option Operator := none
  values : List Value := []

namespace Filter

def name (f : Filter) : String := f.type.name

def column (f : Filter) : String := f.type.column

def operator (f : Filter) : Operator := f.explicit.getD f.default

def setValues (f : Filter) (values : List Value) : Filter := { f with values }

def setOperator (f : Filter) (token : String) : Except Error Filter :=
  match f.type.operator? token with
  | some op => .ok { f with explicit := some op }
  | none => .error (Error.operatorNotSupported f.name token)

def errors (f : Filter) : List String := f.operator.errors f.values

def isValid (f : Filter) : Bool := f.operator.accepts f.values

def contribute (f : Filter) (clock : Clock) : Assembly Unit := do
  if f.column.isEmpty then pure ()
  else
    modify fun s => f.type.joins.foldl Statement.addJoin s
    EStateM.adaptExcept (·.withFilter f.name) (f.operator.contribute f.column f.values clock)

def shown (f : Filter) : String :=
  f.name ++ " " ++ f.operator.token
    ++ (if f.values = [] then "" else " " ++ ", ".intercalate (f.values.map Value.shown))

end Filter
end ReportFilters
