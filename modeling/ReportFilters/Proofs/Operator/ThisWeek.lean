import ReportFilters.Proofs.Operator.RelativeDays

/-! The calendar week around today. Weekdays come round every seven days, so a day is in one week only of
those that begin on a given weekday, and two such weeks are the same or have no day in common. -/

namespace ReportFilters

namespace Weekday

theorem getD_fromMonday (day : Weekday) : all.getD day.fromMonday .monday = day := by
  cases day <;> rfl

theorem fromMonday_lt (day : Weekday) : day.fromMonday < 7 := by
  cases day <;> decide

theorem fromMonday_ofDayNumber (number : Int) :
    ((ofDayNumber number).fromMonday : Int) = number % 7 := by
  have htable : ∀ k < 7, (all.getD k .monday).fromMonday = k := by decide
  have hnonneg : 0 ≤ number % 7 := Int.emod_nonneg number (by decide)
  have hlt : number % 7 < 7 := Int.emod_lt_of_pos number (by decide)
  rw [ofDayNumber, htable (number % 7).toNat (by omega)]
  exact Int.toNat_of_nonneg hnonneg

theorem ofDayNumber_eq_iff {number : Int} {day : Weekday} :
    ofDayNumber number = day ↔ number % 7 = day.fromMonday := by
  constructor
  · rintro rfl
    exact (fromMonday_ofDayNumber number).symm
  · intro h
    rw [ofDayNumber, h, Int.toNat_natCast]
    exact day.getD_fromMonday

end Weekday

structure IsWeek (start : Weekday) (first day : Int) : Prop where
  begins : Weekday.ofDayNumber first = start
  first_le : first ≤ day
  lt_next : day < first + 7

theorem IsWeek.unique {start : Weekday} {first first' day : Int} (h : IsWeek start first day)
    (h' : IsWeek start first' day) : first = first' := by
  have hfirst := Weekday.ofDayNumber_eq_iff.mp h.begins
  have hfirst' := Weekday.ofDayNumber_eq_iff.mp h'.begins
  have hle := h.first_le
  have hlt := h.lt_next
  have hle' := h'.first_le
  have hlt' := h'.lt_next
  omega

namespace Clock

def weekFirst (clock : Clock) : Int := clock.today - clock.daysIntoWeek

theorem isWeek_weekFirst (clock : Clock) :
    IsWeek clock.weekStart clock.weekFirst clock.today := by
  have hstart := clock.weekStart.fromMonday_lt
  have htoday := Weekday.fromMonday_ofDayNumber clock.today
  unfold weekFirst daysIntoWeek
  generalize (Weekday.ofDayNumber clock.today).fromMonday = weekday at htoday ⊢
  -- the weekday of today is added up to seven before the start is taken off, so nothing is cut off
  refine ⟨Weekday.ofDayNumber_eq_iff.mpr ?_, ?_, ?_⟩ <;> omega

theorem hasToday_of_midnights {clock : Clock} {first last : Int}
    (hfirst : clock.offset.HasMidnight first) (hlast : clock.offset.HasMidnight last)
    (hle : first ≤ clock.today) (hlt : clock.today ≤ last) : clock.hasToday = true := by
  obtain ⟨before, rfl, _⟩ := hfirst
  obtain ⟨after, rfl, _⟩ := hlast
  have hnumber : -95746130 ≤ clock.today ∧ clock.today ≤ 95745398 :=
    ⟨Int.le_trans before.first_le hle, Int.le_trans hlt after.le_last⟩
  show (Day.ofNumber? clock.today).isSome = true
  rw [Day.ofNumber?, dif_pos hnumber]
  rfl

end Clock

namespace Builtin

theorem predicate_thisWeek (column : String) (values : List Value) (clock : Clock) :
    thisWeek.predicate column values clock
      = dayRange column clock clock.today (-clock.daysIntoWeek) (7 - clock.daysIntoWeek) := rfl

theorem midnights_thisWeek (clock : Clock) :
    thisWeek.midnights [] clock = [clock.weekFirst, clock.weekFirst + 7] := by
  unfold midnights daysFrom Clock.weekFirst
  simp only [List.map_cons, List.map_nil, List.cons.injEq, and_true]
  constructor <;> omega

section
variable {clock : Clock} {dialect : Dialect} {column : String} {values : List Value}

theorem exists_conjunction_of_thisWeek {p : Predicate}
    (h : thisWeek.condition dialect column values clock = .ok p) :
    ∃ start stop : Instant, start.IsMidnight clock.offset clock.weekFirst ∧
      stop.IsMidnight clock.offset (clock.weekFirst + 7) ∧
      p = Bound.conjunction (dialect.quoteQualified column)
        [⟨.greaterOrEqual, start⟩, ⟨.less, stop⟩] := by
  have hrange := (condition_eq_ok_iff.mp h).2.2
  rw [predicate_thisWeek] at hrange
  obtain ⟨start, stop, hstart, hstop, hp⟩ := exists_conjunction_of_dayRange hrange
  have hfirst : clock.today + -clock.daysIntoWeek = clock.weekFirst := rfl
  have hnext : clock.today + (7 - clock.daysIntoWeek) = clock.weekFirst + 7 := by
    unfold Clock.weekFirst
    omega
  rw [hfirst] at hstart
  rw [hnext] at hstop
  exact ⟨start, stop, hstart, hstop, hp⟩

theorem exists_condition_thisWeek (hfirst : clock.offset.HasMidnight clock.weekFirst)
    (hnext : clock.offset.HasMidnight (clock.weekFirst + 7)) (dialect : Dialect) (column : String)
    (values : List Value) : ∃ p, thisWeek.condition dialect column values clock = .ok p := by
  have hweek := clock.isWeek_weekFirst
  have htoday : clock.hasToday = true :=
    Clock.hasToday_of_midnights hfirst hnext hweek.first_le (Int.le_of_lt hweek.lt_next)
  have hall : thisWeek.HasBounds [] clock := by
    rw [HasBounds, midnights_thisWeek, List.forall_mem_cons, List.forall_mem_singleton]
    exact ⟨hfirst, hnext⟩
  have hprepare : thisWeek.arity.prepare values = thisWeek.arity.prepare [] := rfl
  rw [condition_congr hprepare]
  exact exists_condition htoday (by decide) rfl rfl rfl hall dialect column

theorem matches_thisWeek_iff {p : Predicate}
    (h : thisWeek.condition dialect column values clock = .ok p) (x : Instant) :
    thisWeek.Matches dialect column values clock x
      ↔ IsWeek clock.weekStart clock.weekFirst (clock.dayOf x) := by
  obtain ⟨start, stop, hstart, hstop, rfl⟩ := exists_conjunction_of_thisWeek h
  rw [Matches.iff_selects h, selects_between hstart hstop]
  constructor
  · rintro ⟨hle, hlt⟩
    exact ⟨clock.isWeek_weekFirst.begins, hle, hlt⟩
  · exact fun hweek => ⟨hweek.first_le, hweek.lt_next⟩

theorem matches_thisWeek_of_today {p : Predicate}
    (h : thisWeek.condition dialect column values clock = .ok p) {x : Instant}
    (hx : today.Matches dialect column values clock x) :
    thisWeek.Matches dialect column values clock x := by
  obtain ⟨q, hq, hselects⟩ := hx
  have hrange : dayRange (dialect.quoteQualified column) clock clock.today 0 1 = .ok q :=
    (condition_eq_ok_iff.mp hq).2.2
  have hday : clock.dayOf x = clock.today := by
    rw [selects_dayRange hrange] at hselects
    omega
  rw [matches_thisWeek_iff h, hday]
  exact clock.isWeek_weekFirst

theorem matches_thisWeek_congr {other : Clock} (hoffset : other.offset = clock.offset)
    (hstart : other.weekStart = clock.weekStart) {x : Instant}
    (hx : thisWeek.Matches dialect column values clock x)
    (hx' : thisWeek.Matches dialect column values other x) (y : Instant) :
    thisWeek.Matches dialect column values clock y
      ↔ thisWeek.Matches dialect column values other y := by
  obtain ⟨p, hp, -⟩ := id hx
  obtain ⟨q, hq, -⟩ := id hx'
  have hday : ∀ z, other.dayOf z = clock.dayOf z := by
    intro z
    unfold Clock.dayOf
    rw [hoffset]
  rw [matches_thisWeek_iff hp] at hx ⊢
  rw [matches_thisWeek_iff hq, hday, hstart] at hx' ⊢
  rw [hx.unique hx']

end

/-- The condition for this week has its bounds at two midnights, a week apart, with the first day a start
of the week and today in between. It selects the instants whose calendar day is in that week, today's
among them, and the weeks of two clocks that agree on the offset and on the start of the week are the
same or have no instant in common. -/
theorem thisWeek_selects_week (clock : Clock) (dialect : Dialect) (column : String) :
    ∃ first, Weekday.ofDayNumber first = clock.weekStart ∧
      first ≤ clock.today ∧ clock.today < first + 7 ∧
      (clock.offset.HasMidnight first → clock.offset.HasMidnight (first + 7) →
        ∀ values,
          (∃ start stop : Instant, start.IsMidnight clock.offset first ∧
            stop.IsMidnight clock.offset (first + 7) ∧
            thisWeek.condition dialect column values clock = .ok
              (Bound.conjunction (dialect.quoteQualified column)
                [⟨.greaterOrEqual, start⟩, ⟨.less, stop⟩])) ∧
          ∀ x, (thisWeek.Matches dialect column values clock x ↔
              first ≤ clock.dayOf x ∧ clock.dayOf x < first + 7) ∧
            (today.Matches dialect column values clock x →
              thisWeek.Matches dialect column values clock x)) ∧
      ∀ other : Clock, other.offset = clock.offset → other.weekStart = clock.weekStart →
        ∀ values,
          (∀ x, thisWeek.Matches dialect column values clock x ↔
            thisWeek.Matches dialect column values other x) ∨
          ∀ x, ¬(thisWeek.Matches dialect column values clock x ∧
            thisWeek.Matches dialect column values other x) := by
  have hweek := clock.isWeek_weekFirst
  refine ⟨clock.weekFirst, hweek.begins, hweek.first_le, hweek.lt_next, ?_, ?_⟩
  · intro hfirst hnext values
    obtain ⟨p, hp⟩ := exists_condition_thisWeek hfirst hnext dialect column values
    constructor
    · obtain ⟨start, stop, hstart, hstop, rfl⟩ := exists_conjunction_of_thisWeek hp
      exact ⟨start, stop, hstart, hstop, hp⟩
    · intro x
      constructor
      · rw [matches_thisWeek_iff hp]
        constructor
        · exact fun h => ⟨h.first_le, h.lt_next⟩
        · exact fun h => ⟨hweek.begins, h.1, h.2⟩
      · exact matches_thisWeek_of_today hp
  · intro other hoffset hstart values
    by_cases hcommon : ∃ x, thisWeek.Matches dialect column values clock x ∧
        thisWeek.Matches dialect column values other x
    · obtain ⟨x, hx, hx'⟩ := hcommon
      exact .inl (matches_thisWeek_congr hoffset hstart hx hx')
    · exact .inr (not_exists.mp hcommon)

def mayNoonSundays : Clock := { mayNoon with weekStart := .sunday }

theorem thisWeek_selects_mayNoonSundays :
    ∃ first, first = 739017 ∧ mayNoonSundays.offset.HasMidnight first ∧
      mayNoonSundays.offset.HasMidnight (first + 7) ∧
      thisWeek.Matches .postgresql "entries.spent_on" [] mayNoonSundays
        ((Instant.ofLocal? 739016 79200 0 .utc).get (by decide)) ∧
      ¬thisWeek.Matches .postgresql "entries.spent_on" [] mayNoonSundays
        ((Instant.ofLocal? 739016 79199 0 .utc).get (by decide)) := by
  obtain ⟨first, hbegins, hle, hlt, hselects, -⟩ :=
    thisWeek_selects_week mayNoonSundays .postgresql "entries.spent_on"
  have htoday : mayNoonSundays.today = 739020 := by decide
  have hsunday := Weekday.ofDayNumber_eq_iff.mp hbegins
  have hstart : mayNoonSundays.weekStart.fromMonday = 6 := rfl
  obtain rfl : first = 739017 := by omega
  have hfirst : mayNoonSundays.offset.HasMidnight 739017 :=
    mayNoonSundays.offset.hasMidnight_of_inner (by decide) (by decide)
  have hnext : mayNoonSundays.offset.HasMidnight (739017 + 7) :=
    mayNoonSundays.offset.hasMidnight_of_inner (by decide) (by decide)
  obtain ⟨-, hmatches⟩ := hselects hfirst hnext []
  refine ⟨739017, rfl, hfirst, hnext, ?_, ?_⟩
  · rw [(hmatches _).1]
    decide
  · rw [(hmatches _).1]
    decide

end Builtin
end ReportFilters
