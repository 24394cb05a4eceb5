import ReportFilters.Text.Lowercase

/-! SQL dialects: how each marks parameters and quotes identifiers. -/

namespace ReportFilters

inductive Dialect where
  | postgresql
  | mysql
  | sqlite
deriving DecidableEq

namespace Dialect

def name : Dialect → String
  | postgresql => "postgresql"
  | mysql => "mysql"
  | sqlite => "sqlite"

def ofName? : String → Option Dialect
  | "postgres" => some postgresql
  | "postgresql" => some postgresql
  | "mysql" => some mysql
  | "sqlite" => some sqlite
  | _ => none

def placeholder (dialect : Dialect) (index : Nat) : String :=
  match dialect with
  | postgresql => "$" ++ toString index
  | mysql | sqlite => "?"

def quoteChar : Dialect → Char
  | mysql => '\x60'
  | postgresql | sqlite => '\x22'

end Dialect

def reservedWords : List String := [
  "user", "order", "group", "select", "from", "where", "table", "index", "key", "primary",
  "foreign", "check", "default", "null", "not", "and", "or", "in", "is", "like", "between", "case",
  "when", "then", "else", "end", "as", "on", "join", "left", "right", "inner", "outer", "cross",
  "natural", "using", "limit", "offset", "union", "intersect", "except", "all", "distinct",
  "having", "values", "set"]

def isIdentifierChar (c : Char) : Bool := c.isAlphanum || c = '_'

def needsQuoting (name : String) : Bool :=
  reservedWords.contains (Text.lowercase name) || name.isEmpty
    || (name.toList.head?.map Char.isDigit).getD false || !name.toList.all isIdentifierChar

def dotParts : List Char → List (List Char)
  | [] => [[]]
  | c :: rest =>
    if c = '.' then [] :: dotParts rest
    else
      match dotParts rest with
      | [] => [[c]]
      | part :: more => (c :: part) :: more

namespace Dialect

def quoteAlways (dialect : Dialect) (name : String) : String :=
  let q := dialect.quoteChar
  String.ofList ([q] ++ name.toList.flatMap (fun c => if c = q then [q, q] else [c]) ++ [q])

def quoteIdentifier (dialect : Dialect) (name : String) : String :=
  if needsQuoting name then dialect.quoteAlways name else name

def quoteQualified (dialect : Dialect) (name : String) : String :=
  ".".intercalate ((dotParts name.toList).map fun part =>
    dialect.quoteIdentifier (String.ofList part))

end Dialect
end ReportFilters
