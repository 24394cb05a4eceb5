import ReportFilters.Filter.Basic
import ReportFilters.Json.Parser

/-! Filters as report definitions keep them: by the name of the type and the token of the operator,
if one was assigned. A definition is a table or a list of the same things in order. -/

namespace ReportFilters

structure FilterSpec where
  name : String
  operator : Option String := none
  values : List Value := []
deriving DecidableEq

namespace FilterSpec

def json (spec : FilterSpec) : Except Failure String := do
  let values ← Value.listJson spec.values
  pure (Json.writeTable ([("name", Json.writeText spec.name)]
    ++ spec.operator.toList.map (fun token => ("operator", Json.writeText token))
    ++ [("values", values)]))

def means (a b : FilterSpec) : Bool :=
  a.name = b.name && a.operator = b.operator && Value.meansAll a.values b.values

end FilterSpec

namespace Json

def string? : Json → Option String
  | .string s => s
  | _ => none

def optionalString? : Option Json → Option (Option String)
  | none => some none
  | some .null => some none
  | some value => value.string?.map some

def entriesNamed (entries : List (Option String × Json)) (name : String) : List Json :=
  (entries.filter fun entry => entry.1 = some name).map Prod.snd

def entry? (entries : List (Option String × Json)) (name : String) : Option (Option Json) :=
  match entriesNamed entries name with
  | [] => some none
  | [value] => some (some value)
  | _ => none

end Json

namespace FilterSpec

def ofParts? (name : Option Json) (operator values : Option Json) : Option FilterSpec := do
  let name ← (← name).string?
  let operator ← Json.optionalString? operator
  let values ← (values.map Value.listOfJson?).getD (some [])
  pure { name, operator, values }

def ofJson? : Json → Option FilterSpec
  | .table entries => do
    if entries.any fun entry => entry.1.isNone then none
    else
      ofParts? (← Json.entry? entries "name") (← Json.entry? entries "operator")
        (← Json.entry? entries "values")
  | .list items =>
    match items with
    | [name] => ofParts? (some name) none none
    | [name, operator] => ofParts? (some name) (some operator) none
    | [name, operator, values] => ofParts? (some name) (some operator) (some values)
    | _ => none
  | _ => none

end FilterSpec

namespace Filter

def spec (f : Filter) : FilterSpec :=
  { name := f.name, operator := f.explicit.map Operator.token, values := f.values }

end Filter
end ReportFilters
