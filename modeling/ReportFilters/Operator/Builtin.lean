import ReportFilters.Clock
import ReportFilters.Operator.Arity
import ReportFilters.Value.Reading

/-! The operators every registry has: their tokens, the values they accept and the conditions they
stand for. -/

namespace ReportFilters

inductive Builtin where
  | equal | notEqual | lessOrEqual | greaterOrEqual
  | empty | any | present | absent
  | contains | notContains
  | numericEqual | zero
  | opened | closed
  | today | thisWeek
  | daysAhead | daysAgo | beforeDaysAhead | afterDaysAhead | beforeDaysAgo | afterDaysAgo
  | onDate | beforeDate | afterDate | betweenDates
deriving DecidableEq

inductive Expectation where
  | wholeDays
  | date
  | number
  | text
deriving DecidableEq

namespace Expectation

def wording : Expectation → String
  | wholeDays => "a whole number of days"
  | date => "a date"
  | number => "a number"
  | text => "text"

end Expectation

/-- A condition on a column before its markers are numbered. -/
structure Predicate where
  fragment : String
  params : List Value
deriving DecidableEq

inductive ValueFault where
  | missing (index : Nat)
  | unusable (value : Value)
  | outOfRange (shift : Int)
  | offCalendar
deriving DecidableEq

namespace Builtin

def all : List Builtin := [
  equal, notEqual, lessOrEqual, greaterOrEqual, empty, any, present, absent, contains, notContains,
  numericEqual, zero, opened, closed, today, thisWeek, daysAhead, daysAgo, beforeDaysAhead,
  afterDaysAhead, beforeDaysAgo, afterDaysAgo, onDate, beforeDate, afterDate, betweenDates]

def token : Builtin → String
  | equal => "="
  | notEqual => "!"
  | lessOrEqual => "<="
  | greaterOrEqual => ">="
  | empty => "!*"
  | any => "*"
  | present => "y"
  | absent => "n"
  | contains => "~"
  | notContains => "!~"
  | numericEqual => "=n"
  | zero => "0"
  | opened => "o"
  | closed => "c"
  | today => "t"
  | thisWeek => "w"
  | daysAhead => "t+"
  | daysAgo => "t-"
  | beforeDaysAhead => "<t+"
  | afterDaysAhead => ">t+"
  | beforeDaysAgo => "<t-"
  | afterDaysAgo => ">t-"
  | onDate => "=d"
  | beforeDate => "<d"
  | afterDate => ">d"
  | betweenDates => "<>d"

def ofToken? (token : String) : Option Builtin := all.find? fun op => op.token = token

def label : Builtin → String
  | equal => "is"
  | notEqual => "is not"
  | lessOrEqual => "<="
  | greaterOrEqual => ">="
  | empty => "none"
  | any => "all"
  | present => "set"
  | absent => "not set"
  | contains => "contains"
  | notContains => "doesn't contain"
  | numericEqual => "equals"
  | zero => "is zero"
  | opened => "open"
  | closed => "closed"
  | today => "today"
  | thisWeek => "this week"
  | daysAhead => "in"
  | daysAgo => "days ago"
  | beforeDaysAhead => "in less than"
  | afterDaysAhead => "in more than"
  | beforeDaysAgo => "more than days ago"
  | afterDaysAgo => "less than days ago"
  | onDate => "on"
  | beforeDate => "before"
  | afterDate => "after"
  | betweenDates => "between"

def arity : Builtin → Arity
  | equal | notEqual => .variadic
  | empty | any | present | absent | zero | opened | closed | today | thisWeek => .fixed 0
  | betweenDates => .fixed 2
  | _ => .fixed 1

def expectation? : Builtin → Option Expectation
  | daysAhead | daysAgo | beforeDaysAhead | afterDaysAhead | beforeDaysAgo | afterDaysAgo =>
    some .wholeDays
  | onDate | beforeDate | afterDate | betweenDates => some .date
  | numericEqual => some .number
  | contains | notContains => some .text
  | _ => none

def dayLimit : Int := 100000

def days? (value : Value) : Option Int :=
  match value.int64? with
  | some n => if 0 ≤ n.toInt ∧ n.toInt ≤ dayLimit then some n.toInt else none
  | none => none

end Builtin

/-- Dates are looked at in UTC here, so that the answer does not hang on a clock. -/
def Expectation.accepts : Expectation → Value → Bool
  | .wholeDays, v => (Builtin.days? v).isSome
  | .date, v => (v.instant? Offset.utc).isSome
  | .number, v => v.number?.isSome
  | .text, v => v.text?.isSome

namespace Builtin

def likeEscape : Char := '!'

def escapeLike (text : List Char) : List Char :=
  text.flatMap fun c => if c = '%' ∨ c = '_' ∨ c = likeEscape then [likeEscape, c] else [c]

def likePattern (text : String) : String :=
  String.ofList ('%' :: escapeLike text.toList ++ ['%'])

def markers (count : Nat) : String := ", ".intercalate (List.replicate count "?")

def valueAt (values : List Value) (index : Nat) : Except ValueFault Value :=
  match values[index]? with
  | some v => .ok v
  | none => .error (.missing index)

def usable (read : Value → Option α) (values : List Value) (index : Nat) :
    Except ValueFault α := do
  let v ← valueAt values index
  match read v with
  | some a => .ok a
  | none => .error (.unusable v)

def instantAt (clock : Clock) (values : List Value) (index : Nat) : Except ValueFault Value :=
  (usable (·.instant? clock.offset) values index).map .instant

def boundary (clock : Clock) (dayNumber shift : Int) : Except ValueFault Value :=
  match (Day.ofNumber? (dayNumber + shift)).bind (·.start? clock.offset) with
  | some t => .ok (.instant t)
  | none => .error (.outOfRange shift)

/-- From the start of one day up to the start of another, both counted from the given day. -/
def dayRange (column : String) (clock : Clock) (dayNumber first past : Int) :
    Except ValueFault Predicate := do
  let start ← boundary clock dayNumber first
  let stop ← boundary clock dayNumber past
  pure ⟨column ++ " >= ? AND " ++ column ++ " < ?", [start, stop]⟩

def fromBoundary (column comparison : String) (clock : Clock) (shift : Int) :
    Except ValueFault Predicate := do
  pure ⟨column ++ " " ++ comparison ++ " ?", [← boundary clock clock.today shift]⟩

def predicate (op : Builtin) (column : String) (values : List Value) (clock : Clock) :
    Except ValueFault Predicate :=
  match op with
  | equal => .ok ⟨column ++ " IN (" ++ markers values.length ++ ")", values⟩
  | notEqual =>
    .ok ⟨"(" ++ column ++ " IS NULL OR " ++ column ++ " NOT IN (" ++ markers values.length ++ "))",
      values⟩
  | lessOrEqual => .ok ⟨column ++ " <= ?", values⟩
  | greaterOrEqual => .ok ⟨column ++ " >= ?", values⟩
  | empty | absent => .ok ⟨column ++ " IS NULL", []⟩
  | any | present => .ok ⟨column ++ " IS NOT NULL", []⟩
  | contains => do
    let text := ((← valueAt values 0).text?).getD ""
    pure ⟨column ++ " LIKE ? ESCAPE '!'", [.text (likePattern text)]⟩
  | notContains => do
    let text := ((← valueAt values 0).text?).getD ""
    pure ⟨column ++ " NOT LIKE ? ESCAPE '!'", [.text (likePattern text)]⟩
  | numericEqual => do pure ⟨column ++ " = ?", [.float (← usable Value.number? values 0)]⟩
  | zero => .ok ⟨column ++ " = ?", [.int 0]⟩
  | opened =>
    .ok ⟨column ++ " IN (SELECT id FROM issue_statuses WHERE is_closed = ?)", [.bool false]⟩
  | closed =>
    .ok ⟨column ++ " IN (SELECT id FROM issue_statuses WHERE is_closed = ?)", [.bool true]⟩
  | today => dayRange column clock clock.today 0 1
  | thisWeek =>
    dayRange column clock clock.today (-(clock.daysIntoWeek : Int)) (7 - clock.daysIntoWeek)
  | daysAhead => do
    let n ← usable days? values 0
    dayRange column clock clock.today n (n + 1)
  | daysAgo => do
    let n ← usable days? values 0
    dayRange column clock clock.today (-n) (-n + 1)
  | beforeDaysAhead => do fromBoundary column "<" clock (← usable days? values 0)
  | afterDaysAhead => do fromBoundary column ">=" clock ((← usable days? values 0) + 1)
  | beforeDaysAgo => do fromBoundary column "<" clock (-(← usable days? values 0))
  | afterDaysAgo => do fromBoundary column ">=" clock (-(← usable days? values 0) + 1)
  | onDate => do
    let day ← usable (·.dayNumber? clock.offset) values 0
    if (Day.ofNumber? day).isSome then dayRange column clock day 0 1 else .error .offCalendar
  | beforeDate => do pure ⟨column ++ " < ?", [← instantAt clock values 0]⟩
  | afterDate => do pure ⟨column ++ " > ?", [← instantAt clock values 0]⟩
  | betweenDates => do
    let start ← instantAt clock values 0
    let stop ← instantAt clock values 1
    pure ⟨column ++ " > ? AND " ++ column ++ " < ?", [start, stop]⟩

end Builtin
end ReportFilters
