import ReportFilters.Number.Text

/-! Numbers in JSON text. A whole number that fits 64 bits is kept as it is. Any other is taken by
as many of its leading digits as fit an unsigned 64-bit word, and that word, rounded, is scaled by
a rounded power of ten with one more rounding. -/

namespace ReportFilters.Json

open Numeral (isDigit digitValue digitsValue)

inductive Number where
  | int (value : Int64)
  /-- Nothing when the number is too large. -/
  | real (value : Option Binary64)
deriving DecidableEq

def wordLimit : Nat := 18446744073709551616

/-- Leading digits appended to `word` as long as it stays below the limit, and how many they are. -/
def absorbDigits (word : Nat) : List Char → Nat × Nat
  | [] => (word, 0)
  | c :: rest =>
    if 10 * word + digitValue c < wordLimit then
      let (total, count) := absorbDigits (10 * word + digitValue c) rest
      (total, count + 1)
    else (word, 0)

def powerUnits (exponent : Nat) : Nat :=
  Binary64.nearest (Nat.pow 10 exponent * Binary64.unitsPerOne) 1

/-- Powers beyond the 308th are taken in steps of 308. A word has become zero after two steps. -/
def scaleUnits : Nat → Nat → Int → Option Nat
  | 0, _, _ => some 0
  | steps + 1, units, exponent =>
    if 308 < exponent then if units = 0 then some 0 else none
    else if 0 ≤ exponent then
      let scaled := Binary64.nearest (units * powerUnits exponent.toNat) Binary64.unitsPerOne
      if Binary64.Exact scaled then some scaled else none
    else if -308 ≤ exponent then
      some (Binary64.nearest (units * Binary64.unitsPerOne) (powerUnits (-exponent).toNat))
    else
      scaleUnits steps (Binary64.nearest (units * Binary64.unitsPerOne) (powerUnits 308))
        (exponent + 308)

def scaledWord (negative : Bool) (word : Nat) (exponent : Int) : Option Binary64 :=
  (scaleUnits 5 (Binary64.nearest (word * Binary64.unitsPerOne) 1) exponent).map
    (Binary64.ofUnits negative)

def realOfDigits (negative : Bool) (whole places : List Char) (exponent : Int) :
    Option Binary64 :=
  let (word, used) := absorbDigits 0 whole
  let (word, usedPlaces) := absorbDigits word places
  scaledWord negative word (exponent + (whole.length - used : Nat) - usedPlaces)

/-- Minus zero is not an integer. -/
def integerOfDigits (negative : Bool) (whole : List Char) : Number :=
  let size : Int := digitsValue whole
  let value := if negative then -size else size
  if Numeral.inInt64 value && !(negative && size = 0) then .int (Int64.ofInt value)
  else if size < wordLimit then .real (some (Binary64.ofRatio negative size.toNat 1))
  else .real (realOfDigits negative whole [] 0)

def readPlaces : List Char → Option (List Char × List Char)
  | '.' :: rest =>
    let places := rest.takeWhile isDigit
    if places = [] then none else some (places, rest.dropWhile isDigit)
  | rest => some ([], rest)

def readExponent : List Char → Option (Option Int × List Char)
  | [] => some (none, [])
  | c :: rest =>
    if c = 'e' ∨ c = 'E' then
      let (negative, rest) := Numeral.readSign rest
      let digits := rest.takeWhile isDigit
      let size : Int := digitsValue digits
      if digits = [] then none
      else some (some (if negative then -size else size), rest.dropWhile isDigit)
    else some (none, c :: rest)

def readNumber (text : List Char) : Option (Number × List Char) := do
  let (negative, rest) :=
    match text with
    | '-' :: rest => (true, rest)
    | _ => (false, text)
  let whole := rest.takeWhile isDigit
  if whole = [] ∨ (whole.head? = some '0' ∧ whole.length ≠ 1) then none
  else
    let (places, rest) ← readPlaces (rest.dropWhile isDigit)
    let (exponent, rest) ← readExponent rest
    if places = [] ∧ exponent = none then some (integerOfDigits negative whole, rest)
    else some (.real (realOfDigits negative whole places (exponent.getD 0)), rest)

end ReportFilters.Json
