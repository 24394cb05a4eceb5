import ReportFilters.Calendar.Parser
import ReportFilters.Value.Basic

/-! What an operator may take a value for: an integer, a number, an instant, a day or a text.
Numbers and dates written as text count as such, with blanks around them. -/

namespace ReportFilters.Value

open Text (trimmed)

def int64? : Value → Option Int64
  | int i => some i
  | float x => x.toInt64?
  | text s => Numeral.readInt64 (trimmed s.toList)
  | _ => none

def number? : Value → Option Binary64
  | int i => some (Binary64.ofInt i.toInt)
  | float x => some x
  | text s => Numeral.readBinary64 (trimmed s.toList)
  | _ => none

/-- A bare day is its midnight in `offset`. -/
def instant? (offset : Offset) : Value → Option Instant
  | instant t => some (t.inOffset offset)
  | day d => d.start? offset
  | text s =>
    match Calendar.instantOfText? (trimmed s.toList) with
    | some t => some (t.inOffset offset)
    | none => (Calendar.dayOfText? (trimmed s.toList)).bind (·.start? offset)
  | _ => none

/-- The number of the day. An instant at either end of the calendar may fall on a day beyond it. -/
def dayNumber? (offset : Offset) : Value → Option Int
  | day d => some d.number
  | v => (v.instant? offset).map Instant.localDayNumber

def plainStyle : DecimalStyle :=
  { tie := .up, positional := none, pointZero := false, plusInExponent := false }

def text? : Value → Option String
  | null => none
  | bool b => some (if b then "true" else "false")
  | int i => some (toString i.toInt)
  | float x => some (plainStyle.write x)
  | instant t => some t.text
  | day d => some d.text
  | text s => some s

end ReportFilters.Value
