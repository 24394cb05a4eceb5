import ReportFilters.Catalog.Builder

/-! Filter types with everything settled: column, joins and operators. -/

namespace ReportFilters

structure FilterType where
  name : String
  parent : Option String
  column : String
  joins : List Join
  operators : List Operator
  defaultOperator : Option Operator
  isHeavy : Bool
  display : Bool
  isAbstract : Bool

namespace FilterType

def operator? (type : FilterType) (token : String) : Option Operator :=
  type.operators.find? fun op => op.token = token

def supports (type : FilterType) (token : String) : Bool := (type.operator? token).isSome

/-- The type's own default, else the fallback if the type offers it, else the first operator. -/
def effectiveDefault (type : FilterType) (fallback : String) : Option Operator :=
  type.defaultOperator.or ((type.operator? fallback).or type.operators.head?)

def lookupFor (registry : Registry) (name token : String) : Except Error Operator :=
  (registry.lookup token).mapError (·.withFilter name)

def checkDefault (name : String) (operators : List Operator) (default : Operator) :
    Except Error Unit :=
  if operators.any fun op => op.token = default.token then .ok ()
  else
    .error ((Error.operatorNotSupported name default.token).withHelp
      "A type's default operator must be one of its available operators")

def resolve (registry : Registry) (decl : Declaration) (frozen : FrozenType) :
    Except Error FilterType := do
  let name := frozen.name
  let tokens := (frozen.list Attribute.availableOperators).filterMap AttributeValue.text?
  let operators ← tokens.mapM (lookupFor registry name)
  let default ← ((frozen.scalar Attribute.defaultOperator).bind AttributeValue.text?).mapM
    (lookupFor registry name)
  if let some op := default then checkDefault name operators op
  if !decl.isAbstract && operators.isEmpty then
    throw ((Error.configuration ("filter type `" ++ name ++ "` offers no operators")).withFilter
      name)
  pure {
    name
    parent := frozen.parent
    column := ((frozen.scalar Attribute.column).bind AttributeValue.text?).getD ""
    joins := (frozen.list Attribute.tableJoins).filterMap AttributeValue.join?
    operators
    defaultOperator := default
    isHeavy := frozen.flag Attribute.heavy
    display := frozen.flag Attribute.display
    isAbstract := decl.isAbstract }

end FilterType
end ReportFilters
