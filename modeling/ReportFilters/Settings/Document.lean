import ReportFilters.Settings.Environment
import ReportFilters.Toml.Document

/-! Settings written as a TOML document, in which references to variables of the environment are
replaced before it is read. -/

namespace ReportFilters.Settings

open Toml (Entry)

def keys : List String :=
  ["dialect", "base_table", "utc_offset", "week_start", "default_operator"]

/-- The text of a setting, or its default. No setting is given twice. -/
def textSetting (entries : List Entry) (key default : String) : Option String :=
  match entries.filter fun entry => entry.path.head? = some key with
  | [] => some default
  | [⟨[], [_], .text s⟩] => some s
  | _ => none

/-- The entry of a table that stands for a choice: empty, and the only one. The table may have a
heading of its own, unless the choice is written outside of all tables. -/
def tableChoice (key : String) (entries : List Entry) : Option String :=
  match entries.filter fun entry => entry ≠ ⟨[key], [], .nothing⟩ with
  | [⟨[], [_, choice], .nothing⟩] => if entries.length = 1 then some choice else none
  | [⟨[_], [choice], .nothing⟩] => if entries.length = 2 then some choice else none
  | [⟨[_, choice], [], .nothing⟩] => if entries.length ≤ 2 then some choice else none
  | _ => none

def dialectSetting (entries : List Entry) : Option Dialect :=
  match entries.filter fun entry => entry.path.head? = some "dialect" with
  | [] => some ({} : Settings).dialect
  | [⟨[], [_], .text s⟩] => Dialect.ofName? s
  | found => (tableChoice "dialect" found).bind Dialect.ofName?

def ofEntries? (entries : List Entry) : Option Settings := do
  let defaults : Settings := {}
  if entries.all fun entry => keys.any fun key => entry.path.head? = some key then
    pure {
      dialect := ← dialectSetting entries
      baseTable := ← textSetting entries "base_table" defaults.baseTable
      utcOffset := ← textSetting entries "utc_offset" defaults.utcOffset
      weekStart := ← textSetting entries "week_start" defaults.weekStart
      defaultOperator := ← textSetting entries "default_operator" defaults.defaultOperator }
  else none

def ofDocument (env : Environment) (content : String) : Except Error Settings :=
  let expanded := String.ofList (env.expand content.toList)
  match (Toml.parse? expanded).bind ofEntries? with
  | some settings => settings.validated
  | none => .error (Error.malformed "settings document")

def ofFile (env : Environment) (path : String) (content : Option String) :
    Except Error Settings :=
  match content with
  | some content => ofDocument env content
  | none => .error (Fault.unreadable path).error

end ReportFilters.Settings
