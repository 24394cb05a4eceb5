/-! Failures. The cause of a failure fixes its code and its wording; what is known about the place
where it arose is kept beside it. -/

namespace ReportFilters

inductive ErrorCode where
  | unknownFilterType
  | abstractConstruction
  | unknownOperator
  | operatorNotSupported
  | arityMismatch
  | invalidValue
  | invalidFilterState
  | invalidConfiguration
  | duplicateFilterType
  | unknownParentType
  | unknownAttribute
deriving DecidableEq

namespace ErrorCode

def number : ErrorCode → Nat
  | unknownFilterType => 1001
  | abstractConstruction => 1002
  | unknownOperator => 2001
  | operatorNotSupported => 2002
  | arityMismatch => 2003
  | invalidValue => 2004
  | invalidFilterState => 3001
  | invalidConfiguration => 4001
  | duplicateFilterType => 4002
  | unknownParentType => 4003
  | unknownAttribute => 4004

def text (code : ErrorCode) : String := "R" ++ toString code.number

def description : ErrorCode → String
  | unknownFilterType => "Unknown filter type"
  | abstractConstruction => "Abstract filter type cannot be instantiated"
  | unknownOperator => "Unknown operator"
  | operatorNotSupported => "Operator not supported by filter"
  | arityMismatch => "Wrong number of values for operator"
  | invalidValue => "Invalid value for operator"
  | invalidFilterState => "Filter is not in a valid state"
  | invalidConfiguration => "Invalid configuration"
  | duplicateFilterType => "Duplicate filter type"
  | unknownParentType => "Unknown parent filter type"
  | unknownAttribute => "Undeclared attribute"

def isSetup : ErrorCode → Bool
  | unknownFilterType | abstractConstruction | unknownOperator | invalidConfiguration
  | duplicateFilterType | unknownParentType | unknownAttribute => true
  | _ => false

def isValidation : ErrorCode → Bool
  | invalidFilterState | arityMismatch | invalidValue | operatorNotSupported => true
  | _ => false

end ErrorCode

inductive Cause where
  | unknownFilterType (name : String)
  | abstractConstruction (name : String)
  | unknownOperator (token : String)
  | operatorNotSupported (filter token : String)
  | arityMismatch (token expected : String) (got : Nat)
  | invalidValue (token detail : String)
  | markerMismatch (markers params : Nat)
  | invalidFilterState (filter : String) (messages : List String)
  | configuration (detail : String)
  | malformed (subject : String)
  | duplicateFilterType (name : String)
  | unknownParentType (name parent : String)
  | unknownAttribute (type attr : String)
  | reported (code : ErrorCode) (message : String)
deriving DecidableEq

namespace Cause

def code : Cause → ErrorCode
  | unknownFilterType _ => .unknownFilterType
  | abstractConstruction _ => .abstractConstruction
  | unknownOperator _ => .unknownOperator
  | operatorNotSupported .. => .operatorNotSupported
  | arityMismatch .. => .arityMismatch
  | invalidValue .. => .invalidValue
  | markerMismatch .. => .invalidValue
  | invalidFilterState .. => .invalidFilterState
  | configuration _ => .invalidConfiguration
  | malformed _ => .invalidConfiguration
  | duplicateFilterType _ => .duplicateFilterType
  | unknownParentType .. => .unknownParentType
  | unknownAttribute .. => .unknownAttribute
  | reported code _ => code

def message : Cause → String
  | unknownFilterType name => "No filter type registered as `" ++ name ++ "`"
  | abstractConstruction name => "`" ++ name ++ "` is an abstract filter type"
  | unknownOperator token => "No operator registered as `" ++ token ++ "`"
  | operatorNotSupported filter token =>
    "Operator `" ++ token ++ "` is not supported by filter `" ++ filter ++ "`"
  | arityMismatch token expected got =>
    "Operator `" ++ token ++ "` expects " ++ expected ++ " value(s), got " ++ toString got
  | invalidValue token detail => "Invalid value for operator `" ++ token ++ "`: " ++ detail
  | markerMismatch markers params =>
    "Predicate has " ++ toString markers ++ " placeholder(s) but " ++ toString params
      ++ " parameter(s)"
  | invalidFilterState filter messages =>
    "Filter `" ++ filter ++ "` is invalid: " ++ "; ".intercalate messages
  | configuration detail => "Invalid configuration: " ++ detail
  | malformed subject => "Invalid configuration: malformed " ++ subject
  | duplicateFilterType name => "Filter type `" ++ name ++ "` is declared twice"
  | unknownParentType name parent =>
    "Filter type `" ++ name ++ "` inherits from undeclared `" ++ parent ++ "`"
  | unknownAttribute type attr =>
    "Attribute `" ++ attr ++ "` is not declared on `" ++ type ++ "` or any ancestor"
  | reported _ message => message

end Cause

structure Error where
  cause : Cause
  filter : Option String := none
  operator : Option String := none
  valueCount : Option Nat := none
  sql : Option String := none
  suggestions : List String := []
  help : Option String := none
deriving DecidableEq

namespace Error

def code (e : Error) : ErrorCode := e.cause.code

def message (e : Error) : String := e.cause.message

def withFilter (e : Error) (filter : String) : Error := { e with filter := some filter }

def withOperator (e : Error) (operator : String) : Error := { e with operator := some operator }

def withValueCount (e : Error) (count : Nat) : Error := { e with valueCount := some count }

def withSql (e : Error) (sql : String) : Error := { e with sql := some sql }

def withSuggestion (e : Error) (suggestion : String) : Error :=
  { e with suggestions := e.suggestions ++ [suggestion] }

def withHelp (e : Error) (help : String) : Error := { e with help := some help }

def unknownFilterType (name : String) : Error :=
  { cause := .unknownFilterType name
    filter := some name
    suggestions := ["Register the filter type in the catalog before building chains"] }

def abstractConstruction (name : String) : Error :=
  { cause := .abstractConstruction name
    filter := some name
    help := some "Only concrete filter types bound to a column can be placed in a chain" }

def unknownOperator (token : String) : Error :=
  { cause := .unknownOperator token
    operator := some token
    suggestions := ["Register custom operators before declaring filter types that use them"] }

def operatorNotSupported (filter token : String) : Error :=
  { cause := .operatorNotSupported filter token
    filter := some filter
    operator := some token
    suggestions :=
      ["Pick one of the operators listed by `" ++ filter ++ "`'s available_operators"] }

def arityMismatch (token expected : String) (got : Nat) : Error :=
  { cause := .arityMismatch token expected got, operator := some token, valueCount := some got }

def invalidValue (token detail : String) : Error :=
  { cause := .invalidValue token detail, operator := some token }

def invalidFilterState (filter : String) (messages : List String) : Error :=
  { cause := .invalidFilterState filter messages, filter := some filter, suggestions := messages }

def configuration (detail : String) : Error := { cause := .configuration detail }

def malformed (subject : String) : Error := { cause := .malformed subject }

def duplicateFilterType (name : String) : Error :=
  { cause := .duplicateFilterType name, filter := some name }

def unknownParentType (name parent : String) : Error :=
  { cause := .unknownParentType name parent
    filter := some name
    suggestions := ["Declare parent types before their children"] }

def unknownAttribute (type attr : String) : Error :=
  { cause := .unknownAttribute type attr, filter := some type }

def text (e : Error) : String := "[" ++ e.code.text ++ "] " ++ e.message

def abridged (sql : String) : String :=
  if 200 < sql.length then String.ofList (sql.toList.take 200) ++ "..." else sql

def numbered (first : Nat) : List String → String
  | [] => ""
  | s :: rest => "  " ++ toString first ++ ". " ++ s ++ "\n" ++ numbered (first + 1) rest

def report (e : Error) : String :=
  let item (label : String) (content : Option String) : String :=
    (content.map fun s => "  → " ++ label ++ ": " ++ s ++ "\n").getD ""
  "Error [" ++ e.code.text ++ "]: " ++ e.message ++ "\n"
    ++ item "Filter" e.filter
    ++ item "Operator" e.operator
    ++ item "Values" (e.valueCount.map toString)
    ++ item "SQL" (e.sql.map abridged)
    ++ (if e.suggestions = [] then "" else "\nSuggestions:\n" ++ numbered 1 e.suggestions)
    ++ (e.help.map fun s => "\nHelp: " ++ s ++ "\n").getD ""

end Error

inductive Failure where
  | error (e : Error)
  /-- In the offset at hand an instant falls on a day beyond the calendar. No error is reported of
  it: the program stops. -/
  | offCalendar
deriving DecidableEq

namespace Failure

def withFilter (failure : Failure) (filter : String) : Failure :=
  match failure with
  | error e => error (e.withFilter filter)
  | offCalendar => offCalendar

end Failure
end ReportFilters
