import ReportFilters.Dictionary
import ReportFilters.Settings.Basic
import ReportFilters.Text.Lowercase

/-! Variables of the environment: settings taken from them, and references to them in text. The
variables of an application have a stem of its own in front of their names. -/

namespace ReportFilters

abbrev Environment := Dictionary String

namespace Environment

def setting? (env : Environment) (stem name : String) : Option String :=
  env.get? (stem ++ "_" ++ name)

/-- The names between `${` and the next closing brace, from left to right. `skip` characters
belong to a reference already found. -/
def referencesFrom (skip : Nat) : List Char → List (List Char)
  | [] => []
  | c :: rest =>
    if 0 < skip then referencesFrom (skip - 1) rest
    else
      let body := rest.drop 1
      let name := body.takeWhile (· ≠ '\x7d')
      if c = '$' ∧ rest.head? = some '\x7b' ∧ name ≠ [] ∧ name.length < body.length then
        name :: referencesFrom (name.length + 2) rest
      else referencesFrom 0 rest

def references (text : List Char) : List (List Char) := referencesFrom 0 text

def reference (name : List Char) : List Char := ['$', '\x7b'] ++ name ++ ['\x7d']

def replaceFrom (pattern value : List Char) (skip : Nat) : List Char → List Char
  | [] => []
  | c :: rest =>
    if 0 < skip then replaceFrom pattern value (skip - 1) rest
    else if pattern.isPrefixOf (c :: rest) then
      value ++ replaceFrom pattern value (pattern.length - 1) rest
    else c :: replaceFrom pattern value 0 rest

/-- One reference after the other is replaced throughout the text, by the value of its variable if
that is set. -/
def expand (env : Environment) (text : List Char) : List Char :=
  (references text).foldl (fun result name =>
    match env.get? (String.ofList name) with
    | some value => replaceFrom (reference name) value.toList 0 result
    | none => result) text

end Environment

namespace Settings

def readDialect (written : String) : Except Error Dialect :=
  let name := Text.lowercase written
  match Dialect.ofName? name with
  | some dialect => .ok dialect
  | none => .error (Fault.unknownDialect name).error

def ofEnvironment (env : Environment) (stem : String) : Except Error Settings := do
  let dialect ← (env.setting? stem "DIALECT").mapM readDialect
  let defaults : Settings := {}
  let settings : Settings := {
    dialect := dialect.getD defaults.dialect
    baseTable := (env.setting? stem "BASE_TABLE").getD defaults.baseTable
    utcOffset := (env.setting? stem "UTC_OFFSET").getD defaults.utcOffset
    weekStart := (env.setting? stem "WEEK_START").getD defaults.weekStart }
  settings.validated

end Settings
end ReportFilters
