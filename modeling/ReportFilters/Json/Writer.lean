import ReportFilters.Number.Text

/-! Compact JSON text: no blanks, and no escapes but those that have to be. -/

namespace ReportFilters.Json

/-- Double precision numbers between `1e-5` and `1e16` are written without an exponent. -/
def realStyle : DecimalStyle :=
  { tie := .even, positional := some (-5, 16), pointZero := true, plusInExponent := true }

def writeReal : Binary64 → String
  | .finite negative units exact => realStyle.write (.finite negative units exact)
  | _ => "null"

def escapeChar (c : Char) : List Char :=
  if c = '\x22' then ['\\', '\x22']
  else if c = '\\' then ['\\', '\\']
  else if c = '\x08' then ['\\', 'b']
  else if c = '\x0c' then ['\\', 'f']
  else if c = '\n' then ['\\', 'n']
  else if c = '\r' then ['\\', 'r']
  else if c = '\t' then ['\\', 't']
  else if c.toNat < 0x10 then ['\\', 'u', '0', '0', '0'] ++ Nat.toDigits 16 c.toNat
  else if c.toNat < 0x20 then ['\\', 'u', '0', '0'] ++ Nat.toDigits 16 c.toNat
  else [c]

def writeText (s : String) : String :=
  "\"" ++ String.ofList (s.toList.flatMap escapeChar) ++ "\""

def writeList (items : List String) : String := "[" ++ ",".intercalate items ++ "]"

def writeTable (entries : List (String × String)) : String :=
  "\x7b" ++ ",".intercalate (entries.map fun (name, value) => writeText name ++ ":" ++ value)
    ++ "\x7d"

end ReportFilters.Json
