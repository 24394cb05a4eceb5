import ReportFilters.Calendar.Parser
import ReportFilters.Error
import ReportFilters.Json.Parser
import ReportFilters.Json.Writer
import ReportFilters.Value.Basic

/-! Values in stored definitions. The kind is not written: text that reads as an instant or a day
comes back as one. There is no text for an instant whose clocks show a day beyond the calendar. -/

namespace ReportFilters.Value

def json : Value → Except Failure String
  | null => .ok "null"
  | bool b => .ok (if b then "true" else "false")
  | int i => .ok (toString i.toInt)
  | float x => .ok (Json.writeReal x)
  | instant t =>
    if t.localDay?.isSome then .ok (Json.writeText t.zuluText) else .error .offCalendar
  | day d => .ok (Json.writeText d.text)
  | text s => .ok (Json.writeText s)

def listJson (values : List Value) : Except Failure String := do
  pure (Json.writeList (← values.mapM json))

def ofStoredText (s : String) : Value :=
  match Calendar.looseInstantOfText? s.toList with
  | some t => .instant t
  | none =>
    match Calendar.looseDayOfText? s.toList with
    | some d => .day d
    | none => .text s

def ofJson? : Json → Option Value
  | .null => some null
  | .bool b => some (bool b)
  | .number (.int i) => some (int i)
  | .number (.real x) => x.map float
  | .string s => s.map ofStoredText
  | _ => none

def listOfJson? : Json → Option (List Value)
  | .list items => items.mapM ofJson?
  | _ => none

end ReportFilters.Value
