import ReportFilters.Sql.Join

/-! Attributes of types: their values and the rules by which values of a type and of its ancestors
come together. -/

namespace ReportFilters

inductive AttributeValue where
  | bool (b : Bool)
  | int (i : Int64)
  | text (s : String)
  | join (j : Join)
deriving DecidableEq

namespace AttributeValue

def bool? : AttributeValue → Option Bool
  | bool b => some b
  | _ => none

def text? : AttributeValue → Option String
  | text s => some s
  | _ => none

def join? : AttributeValue → Option Join
  | join j => some j
  | _ => none

end AttributeValue

structure AttributeRule where
  /-- A list gathers the values of ancestors and of the type; otherwise the nearest value counts. -/
  isList : Bool := false
  isUnique : Bool := false
  /-- The value where none is set; of a list, the only entry of an otherwise empty one. -/
  default : Option AttributeValue := none
  map : Option (AttributeValue → AttributeValue) := none

inductive Resolved where
  | scalar (value : Option AttributeValue)
  | list (values : List AttributeValue)
deriving DecidableEq

namespace AttributeRule

def mapped (rule : AttributeRule) (values : List AttributeValue) : List AttributeValue :=
  match rule.map with
  | none => values
  | some f => values.map f

def finishList (rule : AttributeRule) (values : List AttributeValue) : List AttributeValue :=
  let kept := if rule.isUnique then values.eraseDups else values
  if kept = [] then rule.default.toList else kept

def finish (rule : AttributeRule) : Resolved → Resolved
  | .scalar value => .scalar (value.or rule.default)
  | .list values => .list (rule.finishList values)

end AttributeRule
end ReportFilters
