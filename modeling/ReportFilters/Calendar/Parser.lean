import ReportFilters.Calendar.Instant
import ReportFilters.Number.Text

/-! Dates, offsets and instants as text. Each has a strict form, used where a value stands for a
point in time, and a loose one with room for blanks, used in stored definitions. -/

namespace ReportFilters.Calendar

open Numeral (isDigit digitsValue)
open Text (isBlank trimStart trimmed)

def readNumber (least most : Nat) (text : List Char) : Option (Nat × List Char) :=
  let digits := (text.take most).takeWhile isDigit
  if digits.length < least then none else some (digitsValue digits, text.drop digits.length)

def readChar (c : Char) : List Char → Option (List Char)
  | [] => none
  | d :: rest => if d = c then some rest else none

def readYear (text : List Char) : Option (Int × List Char) :=
  match text with
  | '-' :: rest => (readNumber 1 rest.length rest).map fun (n, rest) => (-(n : Int), rest)
  | '+' :: rest => (readNumber 1 rest.length rest).map fun (n, rest) => ((n : Int), rest)
  | _ => (readNumber 1 4 text).map fun (n, rest) => ((n : Int), rest)

def readDate (loose : Bool) (text : List Char) : Option (CivilDate × List Char) := do
  let room (rest : List Char) := if loose then trimStart rest else rest
  let (year, rest) ← readYear (trimStart text)
  let rest ← readChar '-' (room rest)
  let (month, rest) ← readNumber 1 2 (trimStart rest)
  let rest ← readChar '-' (room rest)
  let (day, rest) ← readNumber 1 2 (trimStart rest)
  pure (⟨year, month, day⟩, rest)

def dayOfText? (text : List Char) : Option Day := do
  let (date, rest) ← readDate false text
  if rest = [] then Day.ofCivil? date else none

def looseDayOfText? (text : List Char) : Option Day := do
  let (date, rest) ← readDate true text
  if trimStart rest = [] then Day.ofCivil? date else none

/-- A sign, where a minus sign proper counts as a dash; true for minus. -/
def readOffsetSign : List Char → Option (Bool × List Char)
  | '+' :: rest => some (false, rest)
  | '-' :: rest => some (true, rest)
  | '\u2212' :: rest => some (true, rest)
  | _ => none

def readOffsetSeconds (separator : List Char → Option (List Char)) (text : List Char) :
    Option (Int × List Char) := do
  let (negative, rest) ← readOffsetSign text
  let (hours, rest) ← readNumber 2 2 rest
  let rest ← separator rest
  let (minutes, rest) ← readNumber 2 2 rest
  let seconds : Int := hours * 3600 + minutes * 60
  if minutes < 60 then some (if negative then -seconds else seconds, rest) else none

def looseSeparator (text : List Char) : Option (List Char) :=
  some (text.dropWhile fun c => c = ':' || isBlank c)

def readOffset (separator : List Char → Option (List Char)) (text : List Char) :
    Option (Offset × List Char) :=
  match text with
  | 'Z' :: rest => some (Offset.utc, rest)
  | 'z' :: rest => some (Offset.utc, rest)
  | _ => do
    let (seconds, rest) ← readOffsetSeconds separator text
    pure (← Offset.ofSeconds? seconds, rest)

/-- A configured offset is signed; whatever follows the minutes is not looked at. -/
def offsetOfText? (text : List Char) : Option Offset := do
  let (seconds, _) ← readOffsetSeconds looseSeparator text
  Offset.ofSeconds? seconds

/-- A point and digits. Places beyond the ninth are dropped. -/
def readFraction : List Char → Option (Nat × List Char)
  | '.' :: rest => do
    let (n, more) ← readNumber 1 9 rest
    pure (n * Nat.pow 10 (9 - (rest.length - more.length)), more.dropWhile isDigit)
  | rest => some (0, rest)

/-- Second 60 is the leap second after second 59. -/
def instantOfParts? (date : CivilDate) (hour minute second nano : Nat) (offset : Offset) :
    Option Instant := do
  let day ← Day.ofCivil? date
  if 24 ≤ hour ∨ 60 ≤ minute ∨ 61 ≤ second then none
  else if second = 60 then
    Instant.ofLocal? day.number (hour * 3600 + minute * 60 + 59) (nano + 1000000000) offset
  else Instant.ofLocal? day.number (hour * 3600 + minute * 60 + second) nano offset

def readDateTimeSeparator : List Char → Option (List Char)
  | 'T' :: rest => some rest
  | 't' :: rest => some rest
  | ' ' :: rest => some rest
  | _ => none

def instantOfText? (text : List Char) : Option Instant := do
  let (year, rest) ← readNumber 4 4 text
  let rest ← readChar '-' rest
  let (month, rest) ← readNumber 2 2 rest
  let rest ← readChar '-' rest
  let (day, rest) ← readNumber 2 2 rest
  let rest ← readDateTimeSeparator rest
  let (hour, rest) ← readNumber 2 2 rest
  let rest ← readChar ':' rest
  let (minute, rest) ← readNumber 2 2 rest
  let rest ← readChar ':' rest
  let (second, rest) ← readNumber 2 2 rest
  let (nano, rest) ← readFraction rest
  let (offset, rest) ← readOffset (readChar ':') rest
  if rest = [] then instantOfParts? ⟨year, month, day⟩ hour minute second nano offset else none

def readLooseOffset (text : List Char) : Option (Offset × List Char) :=
  if (text.take 3).map Char.toUpper = ['U', 'T', 'C'] then some (Offset.utc, text.drop 3)
  else readOffset looseSeparator text

def looseInstantOfText? (text : List Char) : Option Instant := do
  let (date, rest) ← readDate true text
  let rest ← readDateTimeSeparator rest
  let (hour, rest) ← readNumber 1 2 (trimStart rest)
  let rest ← readChar ':' (trimStart rest)
  let (minute, rest) ← readNumber 1 2 (trimStart rest)
  let rest ← readChar ':' (trimStart rest)
  let (second, rest) ← readNumber 1 2 (trimStart rest)
  let (nano, rest) ← readFraction rest
  let (offset, rest) ← readLooseOffset (trimStart rest)
  if trimStart rest = [] then instantOfParts? date hour minute second nano offset else none

end ReportFilters.Calendar
