import ReportFilters.Sql.Dialect

/-! Left outer joins. -/

namespace ReportFilters

/-- Reaches `table` from `fromTable` where the two columns agree. -/
structure Join where
  table : String
  column : String
  fromTable : String
  fromColumn : String
deriving DecidableEq

namespace Join

def belongsTo (table fromTable foreignKey : String) : Join := ⟨table, "id", fromTable, foreignKey⟩

def hasMany (table foreignKey fromTable : String) : Join := ⟨table, foreignKey, fromTable, "id"⟩

def sql (join : Join) (dialect : Dialect) : String :=
  let table := dialect.quoteIdentifier join.table
  "LEFT OUTER JOIN " ++ table ++ " ON " ++ table ++ "." ++ dialect.quoteIdentifier join.column
    ++ " = " ++ dialect.quoteIdentifier join.fromTable ++ "."
    ++ dialect.quoteIdentifier join.fromColumn

end Join
end ReportFilters
