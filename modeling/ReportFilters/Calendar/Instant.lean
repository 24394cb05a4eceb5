import ReportFilters.Calendar.Day

/-! Instants and the offset from UTC in which each is read. Seconds are counted in UTC from the
start of the year 1; a leap second is the tail of the second before it, which may be any second. -/

namespace ReportFilters

/-- Seconds east of UTC, less than a day either way. -/
structure Offset where
  seconds : Int
  within : seconds.natAbs < 86400
deriving DecidableEq

namespace Offset

def utc : Offset := ⟨0, by decide⟩

def ofSeconds? (seconds : Int) : Option Offset :=
  if h : seconds.natAbs < 86400 then some ⟨seconds, h⟩ else none

/-- Sign, hours and minutes, to the nearest minute. -/
def text (offset : Offset) : String :=
  let minutes := (offset.seconds.natAbs + 30) / 60
  (if offset.seconds < 0 then "-" else "+")
    ++ CivilDate.padLeft 2 (minutes / 60) ++ ":" ++ CivilDate.padLeft 2 (minutes % 60)

def exactText (offset : Offset) : String :=
  let seconds := offset.seconds.natAbs
  (if offset.seconds < 0 then "-" else "+")
    ++ CivilDate.padLeft 2 (seconds / 3600) ++ ":" ++ CivilDate.padLeft 2 (seconds / 60 % 60)
    ++ (if seconds % 60 = 0 then "" else ":" ++ CivilDate.padLeft 2 (seconds % 60))

end Offset

structure Instant where
  second : Int
  nano : Nat
  offset : Offset
  first_le : -95746130 * 86400 ≤ second
  lt_end : second < 95745399 * 86400
  nano_lt : nano < 2000000000
deriving DecidableEq

namespace Instant

def ofLocal? (dayNumber : Int) (secondOfDay nano : Nat) (offset : Offset) : Option Instant :=
  let second := dayNumber * 86400 + secondOfDay - offset.seconds
  if h : -95746130 * 86400 ≤ second ∧ second < 95745399 * 86400 ∧ nano < 2000000000 then
    some ⟨second, nano, offset, h.1, h.2.1, h.2.2⟩
  else none

def inOffset (t : Instant) (offset : Offset) : Instant := { t with offset }

def localSecond (t : Instant) : Int := t.second + t.offset.seconds

def localDayNumber (t : Instant) : Int := t.localSecond / 86400

def localDay? (t : Instant) : Option Day := Day.ofNumber? t.localDayNumber

def sameMoment (t u : Instant) : Bool := t.second = u.second && t.nano = u.nano

/-- The shortest of three, six or nine places that is exact; nothing for a whole second. -/
def fractionText (nano : Nat) : String :=
  if nano = 0 then ""
  else if nano % 1000000 = 0 then "." ++ CivilDate.padLeft 3 (nano / 1000000)
  else if nano % 1000 = 0 then "." ++ CivilDate.padLeft 6 (nano / 1000)
  else "." ++ CivilDate.padLeft 9 nano

/-- Date and time of day without the offset. A leap second counts on from its second, to 60 at the end
of a minute. -/
def clockText (t : Instant) : String :=
  let secondOfDay := (t.localSecond % 86400).toNat
  let second := secondOfDay % 60 + t.nano / 1000000000
  (CivilDate.ofNumber t.localDayNumber).text ++ "T" ++ CivilDate.padLeft 2 (secondOfDay / 3600)
    ++ ":" ++ CivilDate.padLeft 2 (secondOfDay / 60 % 60) ++ ":" ++ CivilDate.padLeft 2 second
    ++ fractionText (t.nano % 1000000000)

def text (t : Instant) : String := t.clockText ++ t.offset.text

def zuluText (t : Instant) : String :=
  t.clockText ++ (if t.offset.seconds = 0 then "Z" else t.offset.text)

def exactText (t : Instant) : String := t.clockText ++ t.offset.exactText

end Instant

def Day.start? (day : Day) (offset : Offset) : Option Instant :=
  Instant.ofLocal? day.number 0 0 offset

end ReportFilters
