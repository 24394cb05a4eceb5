import ReportFilters.Error
import ReportFilters.Sql.Fragment
import ReportFilters.Sql.Join
import ReportFilters.Value.Stored

/-! A statement under construction: what is selected, the joins, the conditions with their
parameters. Whatever adds to it may fail on the way and leaves the statement as it then stands. -/

namespace ReportFilters

structure CompiledQuery where
  sql : String
  params : List Value
deriving DecidableEq

namespace CompiledQuery

def json (query : CompiledQuery) : Except Failure String := do
  let params ← Value.listJson query.params
  pure (Json.writeTable [("sql", Json.writeText query.sql), ("params", params)])

end CompiledQuery

structure Statement where
  dialect : Dialect
  table : String
  columns : List String
  joins : List Join
  predicates : List String
  params : List Value
deriving DecidableEq

/-- Steps on a statement. A failed step keeps what was done before it. -/
abbrev Assembly := EStateM Failure Statement

namespace Statement

def empty (table : String) (dialect : Dialect) : Statement := ⟨dialect, table, [], [], [], []⟩

def select (s : Statement) (column : String) : Statement :=
  { s with columns := s.columns ++ [column] }

def wantsJoin (s : Statement) (join : Join) : Bool :=
  join.table ≠ s.table && !s.joins.contains join

def addJoin (s : Statement) (join : Join) : Statement :=
  if s.wantsJoin join then { s with joins := s.joins ++ [join] } else s

def numbered (s : Statement) (fragment : String) : String :=
  String.ofList (Fragment.number s.dialect.placeholder (s.params.length + 1) none fragment.toList)

def addPredicate (fragment : String) (params : List Value) : Assembly Unit := do
  let markers := Fragment.markerCount none fragment.toList
  if markers ≠ params.length then
    throw (.error { cause := .markerMismatch markers params.length, sql := some fragment })
  else
    modify fun s =>
      { s with
        predicates := s.predicates ++ [s.numbered fragment]
        params := s.params ++ params }

def selection (s : Statement) : String :=
  if s.columns = [] then "*" else ", ".intercalate (s.columns.map s.dialect.quoteQualified)

def grouped (s : Statement) (predicate : String) : String :=
  if 1 < s.predicates.length && Fragment.hasTopLevelOr predicate then "(" ++ predicate ++ ")"
  else predicate

def whereText (s : Statement) : String := " AND ".intercalate (s.predicates.map s.grouped)

def sql (s : Statement) : String :=
  "SELECT " ++ s.selection ++ " FROM " ++ s.dialect.quoteIdentifier s.table
    ++ String.join (s.joins.map fun join => " " ++ join.sql s.dialect)
    ++ (if s.predicates = [] then "" else " WHERE " ++ s.whereText)

def compiled (s : Statement) : CompiledQuery := ⟨s.sql, s.params⟩

end Statement
end ReportFilters
