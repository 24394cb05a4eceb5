import ReportFilters.Calendar.Instant
import ReportFilters.Number.Text
import ReportFilters.Text.Quoted

/-! The values a filter compares its column with, and how messages show them. -/

namespace ReportFilters

inductive Value where
  | null
  | bool (b : Bool)
  | int (i : Int64)
  | float (x : Binary64)
  | instant (t : Instant)
  | day (d : Day)
  | text (s : String)
deriving DecidableEq

namespace Value

def isNull : Value → Bool
  | null => true
  | _ => false

def shownStyle : DecimalStyle :=
  { tie := .up, positional := some (-4, 16), pointZero := true, plusInExponent := false }

def shown : Value → String
  | null => "Null"
  | bool b => "Bool(" ++ (if b then "true" else "false") ++ ")"
  | int i => "Int(" ++ toString i.toInt ++ ")"
  | float x => "Float(" ++ shownStyle.write x ++ ")"
  | instant t => "DateTime(" ++ t.exactText ++ ")"
  | day d => "Date(" ++ d.text ++ ")"
  | text s => "String(" ++ Text.quoted s ++ ")"

def shownList (values : List Value) : String := Text.bracketed (values.map shown)

/-- Equality of what the values mean: numbers as numbers, instants whatever their offset. -/
def means : Value → Value → Bool
  | float x, float y => x.sameNumber y
  | instant t, instant u => t.sameMoment u
  | v, w => v = w

def meansAll : List Value → List Value → Bool
  | [], [] => true
  | v :: vs, w :: ws => v.means w && meansAll vs ws
  | _, _ => false

end Value
end ReportFilters
