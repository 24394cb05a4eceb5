import ReportFilters.Filter.Basic

/-! Edits of a filter. An edit that fails changes nothing, and of several edits those after the
first failure are not made. -/

namespace ReportFilters

inductive Edit where
  | operator (token : String)
  | values (values : List Value)
deriving DecidableEq

namespace Filter

def edit (f : Filter) : Edit → Except Error Filter
  | .operator token => f.setOperator token
  | .values values => .ok (f.setValues values)

def editAll (f : Filter) : List Edit → Filter × Option Error
  | [] => (f, none)
  | e :: rest =>
    match f.edit e with
    | .ok edited => edited.editAll rest
    | .error failure => (f, some failure)

def edited (f : Filter) (edits : List Edit) : Filter := (f.editAll edits).1

end Filter
end ReportFilters
