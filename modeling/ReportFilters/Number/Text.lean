import ReportFilters.Number.Shortest
import ReportFilters.Text.Blank

/-! Numbers as text: how integers and double precision numbers are read, and how the latter are
written. -/

namespace ReportFilters

namespace Numeral

def isDigit (c : Char) : Bool := '0' ≤ c && c ≤ '9'

def digitValue (c : Char) : Nat := c.toNat - '0'.toNat

def digitsValue (digits : List Char) : Nat :=
  digits.foldl (fun n c => 10 * n + digitValue c) 0

def readSign : List Char → Bool × List Char
  | '-' :: rest => (true, rest)
  | '+' :: rest => (false, rest)
  | text => (false, text)

def readInt (text : List Char) : Option Int :=
  let (negative, digits) := readSign text
  if digits = [] ∨ !digits.all isDigit then none
  else
    let size : Int := digitsValue digits
    some (if negative then -size else size)

def inInt64 (i : Int) : Bool := Int64.minValue.toInt ≤ i && i ≤ Int64.maxValue.toInt

def readInt64 (text : List Char) : Option Int64 :=
  (readInt text).bind fun i => if inInt64 i then some (Int64.ofInt i) else none

def readExponent : List Char → Option Int
  | [] => some 0
  | c :: rest => if c = 'e' ∨ c = 'E' then readInt rest else none

def readDecimal (negative : Bool) (text : List Char) : Option Binary64 :=
  let whole := text.takeWhile isDigit
  let afterWhole := text.dropWhile isDigit
  let (places, rest) :=
    match afterWhole with
    | '.' :: more => (more.takeWhile isDigit, more.dropWhile isDigit)
    | other => ([], other)
  if whole = [] ∧ places = [] then none
  else (readExponent rest).map fun exponent =>
    Binary64.ofDecimal negative (digitsValue (whole ++ places)) (exponent - places.length)

def readBinary64 (text : List Char) : Option Binary64 :=
  let (negative, unsigned) := readSign text
  let word := unsigned.map Char.toLower
  if word = "nan".toList then some .nan
  else if word = "inf".toList ∨ word = "infinity".toList then some (.infinite negative)
  else readDecimal negative unsigned

end Numeral

structure DecimalStyle where
  tie : Tie
  /-- The leading exponents written without an exponent; all of them when there is no range. -/
  positional : Option (Int × Int)
  pointZero : Bool
  plusInExponent : Bool

namespace DecimalStyle

def positionalText (style : DecimalStyle) (d : Decimal) : String :=
  let digits := Nat.toDigits 10 d.digits
  if 0 ≤ d.exponent then
    String.ofList (digits ++ List.replicate d.exponent.toNat '0')
      ++ (if style.pointZero then ".0" else "")
  else
    let places := (-d.exponent).toNat
    let padded := List.replicate (places + 1 - digits.length) '0' ++ digits
    let cut := padded.length - places
    String.ofList (padded.take cut ++ '.' :: padded.drop cut)

def scientificText (style : DecimalStyle) (d : Decimal) : String :=
  let exponent := d.leadingExponent
  let mantissa :=
    match Nat.toDigits 10 d.digits with
    | [] => []
    | [c] => [c]
    | c :: more => c :: '.' :: more
  let sign := if 0 ≤ exponent ∧ style.plusInExponent then "e+" else "e"
  String.ofList mantissa ++ sign ++ toString exponent

def isPositional (style : DecimalStyle) (d : Decimal) : Bool :=
  match style.positional with
  | none => true
  | some (low, high) => d.digits = 0 || (low ≤ d.leadingExponent && d.leadingExponent < high)

def write (style : DecimalStyle) : Binary64 → String
  | .nan => "NaN"
  | .infinite negative => if negative then "-inf" else "inf"
  | .finite negative units _ =>
    let d := Binary64.shortest style.tie units
    (if negative then "-" else "")
      ++ (if style.isPositional d then style.positionalText d else style.scientificText d)

end DecimalStyle
end ReportFilters
