import ReportFilters.Calendar.Instant

/-! What a compilation knows of time: its instant, the offset whose calendar counts, and the day on
which weeks begin. -/

namespace ReportFilters

structure Clock where
  now : Instant
  weekStart : Weekday
deriving DecidableEq

namespace Clock

def offset (clock : Clock) : Offset := clock.now.offset

def today (clock : Clock) : Int := clock.now.localDayNumber

def hasToday (clock : Clock) : Bool := clock.now.localDay?.isSome

def daysIntoWeek (clock : Clock) : Nat :=
  ((Weekday.ofDayNumber clock.today).fromMonday + 7 - clock.weekStart.fromMonday) % 7

end Clock
end ReportFilters
