import ReportFilters.Settings.Environment

/-! Which events an application wants to see, and how, by the variables of its environment. -/

namespace ReportFilters.Environment

def choice? (env : Environment) (stem name : String) (options : List String) : Option String := do
  let word := Text.lowercase (← env.setting? stem name)
  if options.contains word then some word else none

def isDebugEnabled (env : Environment) (stem : String) : Bool :=
  (env.choice? stem "DEBUG" ["true", "1", "yes"]).isSome

def logLevel (env : Environment) (stem : String) : String :=
  (env.choice? stem "LOG_LEVEL" ["trace", "debug", "info", "warn", "error"]).getD
    (if env.isDebugEnabled stem then "debug" else "warn")

def logFormat (env : Environment) (stem : String) : String :=
  (env.choice? stem "LOG_FORMAT" ["pretty", "compact"]).getD "json"

end ReportFilters.Environment
