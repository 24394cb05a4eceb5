import ReportFilters.Operator.Registry

/-! Declarations of filter types, as an application writes them. -/

namespace ReportFilters

inductive OperatorUse where
  | group (group : OperatorGroup)
  | token (token : String)
deriving DecidableEq

namespace OperatorUse

def tokens : OperatorUse → List String
  | group g => g.tokens
  | token t => [t]

/-- Dates and presence flags make no sense beside the operators of an ancestor. -/
def replacesInherited : OperatorUse → Bool
  | group g => g = .time
  | token t => t = "y" || t = "n"

end OperatorUse

def baseFilter : String := "filter"

structure Declaration where
  name : String
  isAbstract : Bool := false
  parent : String := baseFilter
  /-- Empty for a type that is not bound to a column of its own. -/
  column : String := ""
  joins : List Join := []
  uses : List OperatorUse := []
  defaultOperator : Option String := none
  isHeavy : Option Bool := none
deriving DecidableEq

namespace Declaration

def concrete (name column : String) (join : Option Join) (tokens : List String)
    (defaultOperator : Option String) : Declaration :=
  { name, column, joins := join.toList, uses := tokens.map .token, defaultOperator }

end Declaration
end ReportFilters
