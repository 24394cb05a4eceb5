/-! Calendar days of the Gregorian calendar, extended in both directions. A day is a count from
1 January of the year 1; year, month and day of month are read off the count. -/

namespace ReportFilters

structure CivilDate where
  year : Int
  month : Nat
  day : Nat
deriving DecidableEq

namespace CivilDate

def isLeap (year : Int) : Bool := year % 4 = 0 && (year % 100 ≠ 0 || year % 400 = 0)

def monthLengths (year : Int) : List Nat :=
  [31, if isLeap year then 29 else 28, 31, 30, 31, 30, 31, 31, 30, 31, 30, 31]

def daysBeforeYear (year : Int) : Int :=
  365 * (year - 1) + (year - 1) / 4 - (year - 1) / 100 + (year - 1) / 400

def yearOf (number : Int) : Int :=
  let guess := 400 * number / 146097 + 1
  if number < daysBeforeYear guess then guess - 1
  else if daysBeforeYear (guess + 1) ≤ number then guess + 1
  else guess

def splitMonths (month rest : Nat) : List Nat → Nat × Nat
  | [] => (month, rest + 1)
  | length :: more =>
    if rest < length then (month, rest + 1) else splitMonths (month + 1) (rest - length) more

def ofNumber (number : Int) : CivilDate :=
  let year := yearOf number
  let (month, day) := splitMonths 1 (number - daysBeforeYear year).toNat (monthLengths year)
  ⟨year, month, day⟩

def daysBeforeMonth (year : Int) (month : Nat) : Nat :=
  ((monthLengths year).take (month - 1)).foldr (· + ·) 0

def number? (date : CivilDate) : Option Int :=
  if 1 ≤ date.month ∧ date.month ≤ 12 ∧ 1 ≤ date.day
      ∧ date.day ≤ (monthLengths date.year).getD (date.month - 1) 0 then
    some (daysBeforeYear date.year + daysBeforeMonth date.year date.month + (date.day - 1))
  else none

def padLeft (width n : Nat) : String :=
  let digits := Nat.toDigits 10 n
  String.ofList (List.replicate (width - digits.length) '0' ++ digits)

/-- Four digits; a year outside 0 to 9999 has a sign in front and as many digits as it needs. -/
def yearText (year : Int) : String :=
  (if year < 0 then "-" else if 9999 < year then "+" else "") ++ padLeft 4 year.natAbs

def text (date : CivilDate) : String :=
  yearText date.year ++ "-" ++ padLeft 2 date.month ++ "-" ++ padLeft 2 date.day

end CivilDate

/-- A day between 1 January -262143 and 31 December 262142. -/
structure Day where
  number : Int
  first_le : -95746130 ≤ number
  le_last : number ≤ 95745398
deriving DecidableEq

namespace Day

def ofNumber? (number : Int) : Option Day :=
  if h : -95746130 ≤ number ∧ number ≤ 95745398 then some ⟨number, h.1, h.2⟩ else none

def ofCivil? (date : CivilDate) : Option Day := date.number?.bind ofNumber?

def civil (day : Day) : CivilDate := CivilDate.ofNumber day.number

def text (day : Day) : String := day.civil.text

end Day

inductive Weekday where
  | monday | tuesday | wednesday | thursday | friday | saturday | sunday
deriving DecidableEq

namespace Weekday

def fromMonday : Weekday → Nat
  | .monday => 0
  | .tuesday => 1
  | .wednesday => 2
  | .thursday => 3
  | .friday => 4
  | .saturday => 5
  | .sunday => 6

def name : Weekday → String
  | .monday => "monday"
  | .tuesday => "tuesday"
  | .wednesday => "wednesday"
  | .thursday => "thursday"
  | .friday => "friday"
  | .saturday => "saturday"
  | .sunday => "sunday"

def shortName (day : Weekday) : String := ((day.name.take 3).toString).capitalize

def all : List Weekday := [.monday, .tuesday, .wednesday, .thursday, .friday, .saturday, .sunday]

def ofText? (s : String) : Option Weekday :=
  let word := s.toList.map Char.toLower
  all.find? fun day => word = day.name.toList || word = day.name.toList.take 3

/-- The first day of the year 1 was a Monday. -/
def ofDayNumber (number : Int) : Weekday :=
  all.getD (number % 7).toNat .monday

end Weekday
end ReportFilters
