import ReportFilters.Calendar.Parser
import ReportFilters.Clock
import ReportFilters.Error
import ReportFilters.Json.Writer
import ReportFilters.Sql.Dialect

/-! Settings of an application's reports. They are kept as written and checked when they are put
together. -/

namespace ReportFilters

structure Settings where
  dialect : Dialect := .postgresql
  baseTable : String := "entries"
  utcOffset : String := "+00:00"
  weekStart : String := "monday"
  defaultOperator : String := "="
deriving DecidableEq

namespace Settings

inductive Fault where
  | emptyBaseTable
  | emptyDefaultOperator
  | badOffset (written : String)
  | badWeekStart (written : String)
  | unknownDialect (written : String)
  | unreadable (path : String)
deriving DecidableEq

namespace Fault

def detail : Fault → String
  | emptyBaseTable => "base_table must not be empty"
  | emptyDefaultOperator => "default_operator must not be empty"
  | badOffset written => "utc_offset `" ++ written ++ "` is not +HH:MM"
  | badWeekStart written => "week_start `" ++ written ++ "` is not a weekday"
  | unknownDialect written => "unknown dialect `" ++ written ++ "`"
  | unreadable path => "cannot read " ++ path

def error (fault : Fault) : Error := Error.configuration fault.detail

end Fault

def offset (settings : Settings) : Except Error Offset :=
  match Calendar.offsetOfText? settings.utcOffset.toList with
  | some offset => .ok offset
  | none => .error (Fault.badOffset settings.utcOffset).error

def firstWeekday (settings : Settings) : Except Error Weekday :=
  match Weekday.ofText? settings.weekStart with
  | some day => .ok day
  | none => .error (Fault.badWeekStart settings.weekStart).error

def defaultToken (settings : Settings) : String := Text.trim settings.defaultOperator

def validate (settings : Settings) : Except Error Unit := do
  if Text.trim settings.baseTable = "" then throw Fault.emptyBaseTable.error
  if settings.defaultToken = "" then throw Fault.emptyDefaultOperator.error
  let _ ← settings.offset
  let _ ← settings.firstWeekday

def validated (settings : Settings) : Except Error Settings := do
  settings.validate
  pure settings

def clockAt (settings : Settings) (now : Instant) : Except Error Clock := do
  let offset ← settings.offset
  let weekStart ← settings.firstWeekday
  pure { now := now.inOffset offset, weekStart }

def json (settings : Settings) : String :=
  Json.writeTable [
    ("dialect", Json.writeText settings.dialect.name),
    ("base_table", Json.writeText settings.baseTable),
    ("utc_offset", Json.writeText settings.utcOffset),
    ("week_start", Json.writeText settings.weekStart),
    ("default_operator", Json.writeText settings.defaultOperator)]

end Settings
end ReportFilters
