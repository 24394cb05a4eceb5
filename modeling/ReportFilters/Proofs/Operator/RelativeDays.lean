import ReportFilters.Proofs.Operator.Selection

/-! Operators on days relative to today: which days each of them stands for, and how those of several
operators lie to each other. -/

namespace ReportFilters.Builtin

def relativeDays : List Builtin :=
  [daysAhead, beforeDaysAhead, afterDaysAhead, daysAgo, beforeDaysAgo, afterDaysAgo]

def Includes (op : Builtin) (today n day : Int) : Prop :=
  match op with
  | daysAhead => day = today + n
  | beforeDaysAhead => day < today + n
  | afterDaysAhead => today + n < day
  | daysAgo => day = today - n
  | beforeDaysAgo => day < today - n
  | afterDaysAgo => today - n < day
  | _ => False

theorem days?_eq_some_iff {v : Value} {n : Int} :
    days? v = some n ↔ v.int64?.map Int64.toInt = some n ∧ 0 ≤ n ∧ n ≤ 100000 := by
  rw [days?, dayLimit]
  cases v.int64? with
  | none => simp
  | some i =>
    simp only [Option.map_some, Option.some.injEq]
    split
    next hlimit =>
      constructor
      · rintro h
        cases h
        exact ⟨rfl, hlimit⟩
      · rintro ⟨rfl, _⟩
        rfl
    next hlimit =>
      constructor
      · rintro ⟨⟩
      · rintro ⟨rfl, h⟩
        exact absurd h hlimit

section
variable {column : String} {v : Value} {n : Int} {clock : Clock} {p : Predicate}

theorem selects_relative {op : Builtin} (hop : op ∈ relativeDays) (hn : days? v = some n)
    (h : op.predicate column [v] clock = .ok p) (x : Instant) :
    p.Selects column x ↔ op.Includes clock.today n (clock.dayOf x) := by
  have husable : usable days? [v] 0 = .ok n := usable_of_some rfl hn
  simp only [relativeDays, List.mem_cons, List.not_mem_nil, or_false] at hop
  rcases hop with rfl | rfl | rfl | rfl | rfl | rfl <;> rw [predicate, husable] at h
  · rw [selects_dayRange h, Includes]
    omega
  · exact selects_before h x
  · rw [selects_from h, Includes]
    omega
  · rw [selects_dayRange h, Includes]
    omega
  · rw [selects_before h, Includes]
    omega
  · rw [selects_from h, Includes]
    omega

theorem kind_of_relativeDays {op : Builtin} (hop : op ∈ relativeDays) :
    op.arity = .fixed 1 ∧ op.expectation? = some .wholeDays ∧ op ≠ onDate := by
  simp only [relativeDays, List.mem_cons, List.not_mem_nil, or_false] at hop
  rcases hop with rfl | rfl | rfl | rfl | rfl | rfl <;> exact ⟨rfl, rfl, by decide⟩

theorem prepare_relative {op : Builtin} (hop : op ∈ relativeDays) (hn : days? v = some n) :
    op.arity.prepare [v] = [v] := by
  have hpresent : v.isNull = false := by
    cases v with
    | null => cases hn
    | _ => rfl
  rw [(kind_of_relativeDays hop).1]
  exact Arity.prepare_eq_self (List.forall_mem_singleton.mpr hpresent)

theorem exists_condition_relative {op : Builtin} (htoday : clock.hasToday) (hop : op ∈ relativeDays)
    (hn : days? v = some n)
    (hall : op.HasBounds [v] clock) (dialect : Dialect) (column : String) :
    ∃ p, op.condition dialect column [v] clock = .ok p := by
  obtain ⟨harity, hexpects, hdate⟩ := kind_of_relativeDays hop
  refine exists_condition htoday hdate (prepare_relative hop hn) ?_ ?_ hall dialect column
  · rw [harity]
    rfl
  · rw [complaints, hexpects]
    simp [Expectation.accepts, hn]

theorem matches_relative {op : Builtin} (htoday : clock.hasToday) (hop : op ∈ relativeDays)
    (hn : days? v = some n)
    (hall : op.HasBounds [v] clock) (dialect : Dialect) (column : String) (x : Instant) :
    op.Matches dialect column [v] clock x ↔ op.Includes clock.today n (clock.dayOf x) := by
  obtain ⟨p, hp⟩ := exists_condition_relative htoday hop hn hall dialect column
  have hpredicate := (condition_eq_ok_iff.mp hp).2.2
  rw [prepare_relative hop hn] at hpredicate
  rw [Matches.iff_selects hp, selects_relative hop hn hpredicate]

end

def exactDays : List Builtin := [today, daysAhead, daysAgo]

theorem exists_day_of_exactDays {op : Builtin} (hop : op ∈ exactDays) {dialect : Dialect}
    {column : String} {values : List Value} {clock : Clock} {p : Predicate}
    (h : op.condition dialect column values clock = .ok p) :
    ∃ day, (day - clock.today).natAbs ≤ 100000 ∧
      ∀ x, p.Selects (dialect.quoteQualified column) x ↔ clock.dayOf x = day := by
  obtain ⟨_, _, hpredicate⟩ := condition_eq_ok_iff.mp h
  simp only [exactDays, List.mem_cons, List.not_mem_nil, or_false] at hop
  rcases hop with rfl | rfl | rfl
  · refine ⟨clock.today, by omega, fun x => ?_⟩
    rw [selects_dayRange hpredicate]
    omega
  · obtain ⟨n, husable, hrange⟩ := exists_of_bind_eq_ok hpredicate
    obtain ⟨v, _, hn⟩ := usable_eq_ok_iff.mp husable
    obtain ⟨_, hfirst, hlast⟩ := days?_eq_some_iff.mp hn
    refine ⟨clock.today + n, by omega, fun x => ?_⟩
    rw [selects_dayRange hrange]
    omega
  · obtain ⟨n, husable, hrange⟩ := exists_of_bind_eq_ok hpredicate
    obtain ⟨v, _, hn⟩ := usable_eq_ok_iff.mp husable
    obtain ⟨_, hfirst, hlast⟩ := days?_eq_some_iff.mp hn
    refine ⟨clock.today - n, by omega, fun x => ?_⟩
    rw [selects_dayRange hrange]
    omega

theorem matches_exactDays_congr {op other : Builtin} (hop : op ∈ exactDays) (hother : other ∈ exactDays)
    {dialect : Dialect} {column : String} {values values' : List Value} {clock : Clock} {x : Instant}
    (hx : op.Matches dialect column values clock x)
    (hx' : other.Matches dialect column values' clock x) (y : Instant) :
    op.Matches dialect column values clock y ↔ other.Matches dialect column values' clock y := by
  obtain ⟨p, hp, hselects⟩ := hx
  obtain ⟨q, hq, hselects'⟩ := hx'
  obtain ⟨day, _, hday⟩ := exists_day_of_exactDays hop hp
  obtain ⟨day', _, hday'⟩ := exists_day_of_exactDays hother hq
  rw [Matches.iff_selects hp, Matches.iff_selects hq, hday, hday',
    ← (hday x).mp hselects, ← (hday' x).mp hselects']

theorem exists_matches_exactDays_iff {clock : Clock} (htoday : clock.hasToday) (dialect : Dialect)
    (column : String) {x : Instant} (hstart : clock.offset.HasMidnight (clock.dayOf x))
    (hstop : clock.offset.HasMidnight (clock.dayOf x + 1)) :
    (∃ op ∈ exactDays, ∃ values, op.Matches dialect column values clock x) ↔
      (clock.dayOf x - clock.today).natAbs ≤ 100000 := by
  constructor
  · rintro ⟨op, hop, values, p, hp, hselects⟩
    obtain ⟨day, hreach, hday⟩ := exists_day_of_exactDays hop hp
    rwa [(hday x).mp hselects]
  · intro hreach
    generalize hn : ((clock.dayOf x - clock.today).natAbs : Int) = n
    have hdays : days? (.int (Int64.ofInt n)) = some n := by
      have hint : (Int64.ofInt n).toInt = n := Int64.toInt_ofInt_of_le (by omega) (by omega)
      exact days?_eq_some_iff.mpr ⟨congrArg some hint, by omega, by omega⟩
    -- the operator that looks the right way reaches the day
    rcases Int.le_total clock.today (clock.dayOf x) with hle | hle
    · refine ⟨daysAhead, by decide, [.int (Int64.ofInt n)], ?_⟩
      have hday : clock.today + n = clock.dayOf x := by omega
      rw [matches_relative htoday (by decide) hdays]
      · exact hday.symm
      · simp [HasBounds, midnights, hdays, daysFrom, ← Int.add_assoc, hday, hstart, hstop]
    · refine ⟨daysAgo, by decide, [.int (Int64.ofInt n)], ?_⟩
      have hday : clock.today + -n = clock.dayOf x := by omega
      rw [matches_relative htoday (by decide) hdays]
      · exact hday.symm
      · simp [HasBounds, midnights, hdays, daysFrom, ← Int.add_assoc, hday, hstart, hstop]

theorem existsUnique_of_trichotomy {before on after : Builtin} {P : Builtin → Prop} {day : Int}
    (bound : Int) (hbefore : P before ↔ day < bound) (hon : P on ↔ day = bound)
    (hafter : P after ↔ bound < day) : ∃! op, op ∈ [before, on, after] ∧ P op := by
  simp only [List.mem_cons, List.not_mem_nil, or_false]
  rcases Int.lt_trichotomy day bound with h | h | h
  · refine ⟨before, ⟨.inl rfl, hbefore.mpr h⟩, ?_⟩
    grind
  · refine ⟨on, ⟨.inr (.inl rfl), hon.mpr h⟩, ?_⟩
    grind
  · refine ⟨after, ⟨.inr (.inr rfl), hafter.mpr h⟩, ?_⟩
    grind

section
variable {clock : Clock} (htoday : clock.hasToday) (dialect : Dialect) (column : String)
include htoday

theorem exists_condition_today (hall : today.HasBounds [] clock) :
    ∃ p, today.condition dialect column [] clock = .ok p :=
  exists_condition htoday (by decide) rfl rfl rfl hall dialect column

theorem matches_today (hall : today.HasBounds [] clock) (x : Instant) :
    today.Matches dialect column [] clock x ↔ clock.dayOf x = clock.today := by
  obtain ⟨p, hp⟩ := exists_condition_today htoday dialect column hall
  have hpredicate : dayRange (dialect.quoteQualified column) clock clock.today 0 1 = .ok p :=
    (condition_eq_ok_iff.mp hp).2.2
  rw [Matches.iff_selects hp, selects_dayRange hpredicate]
  omega

theorem existsUnique_matches {v : Value} {n : Int} (hn : days? v = some n) {three : List Builtin}
    (hthree : three ∈
      [[beforeDaysAhead, daysAhead, afterDaysAhead], [beforeDaysAgo, daysAgo, afterDaysAgo]])
    (hall : ∀ op ∈ three, op.HasBounds [v] clock) (x : Instant) :
    ∃! op, op ∈ three ∧ op.Matches dialect column [v] clock x := by
  have hrelative : ∀ op ∈ three, op ∈ relativeDays := by
    simp only [List.mem_cons, List.not_mem_nil, or_false] at hthree
    rcases hthree with rfl | rfl <;> decide
  have hmatches : ∀ op ∈ three, (op.Matches dialect column [v] clock x ↔
      op.Includes clock.today n (clock.dayOf x)) := fun op hop =>
    matches_relative htoday (hrelative op hop) hn (hall op hop) dialect column x
  have hunique : ∃! op, op ∈ three ∧ op.Includes clock.today n (clock.dayOf x) := by
    simp only [List.mem_cons, List.not_mem_nil, or_false] at hthree
    rcases hthree with rfl | rfl
    · exact existsUnique_of_trichotomy (clock.today + n) Iff.rfl Iff.rfl Iff.rfl
    · exact existsUnique_of_trichotomy (clock.today - n) Iff.rfl Iff.rfl Iff.rfl
  refine (existsUnique_congr fun op => ?_).mpr hunique
  exact and_congr_right (hmatches op)

end

theorem condition_today_eq_ok_iff {v : Value} (hzero : days? v = some 0) {dialect : Dialect}
    {column : String} {clock : Clock} {p : Predicate} {op : Builtin} (hop : op ∈ [daysAhead, daysAgo]) :
    today.condition dialect column [] clock = .ok p ↔ op.condition dialect column [v] clock = .ok p := by
  have hrelative : op ∈ relativeDays := by
    simp only [List.mem_cons, List.not_mem_nil, or_false] at hop
    rcases hop with rfl | rfl <;> decide
  have hpredicate : op.predicate (dialect.quoteQualified column) [v] clock
      = today.predicate (dialect.quoteQualified column) [] clock := by
    simp only [List.mem_cons, List.not_mem_nil, or_false] at hop
    rcases hop with rfl | rfl <;> exact usable_bind_of_some hzero _
  rw [condition_eq_ok_iff, condition_eq_ok_iff, prepare_relative hrelative hzero, hpredicate]
  simp only [List.mem_cons, List.not_mem_nil, or_false] at hop
  rcases hop with rfl | rfl <;> rfl

/-- The conditions on relative dates say of an instant's calendar day what they are named for. One of
three always holds, and conditions for a single day overlap only if they are for the same day. Together
they reach as far as days can be counted, and no further. -/
theorem relativeDays_classify {clock : Clock} (htoday : clock.hasToday) (dialect : Dialect)
    (column : String) :
    (∀ v n, v.int64?.map Int64.toInt = some n → 0 ≤ n → n ≤ 100000 →
      (∀ op ∈ relativeDays, op.HasBounds [v] clock →
        (∃ p, op.condition dialect column [v] clock = .ok p) ∧
        ∀ x, op.Matches dialect column [v] clock x ↔ op.Includes clock.today n (clock.dayOf x)) ∧
      (∀ three ∈ [[beforeDaysAhead, daysAhead, afterDaysAhead],
          [beforeDaysAgo, daysAgo, afterDaysAgo]],
        (∀ op ∈ three, op.HasBounds [v] clock) →
        ∀ x, ∃! op, op ∈ three ∧ op.Matches dialect column [v] clock x) ∧
      (n = 0 → ∀ op ∈ [daysAhead, daysAgo], ∀ p,
        today.condition dialect column [] clock = .ok p ↔
          op.condition dialect column [v] clock = .ok p)) ∧
    (today.HasBounds [] clock →
      (∃ p, today.condition dialect column [] clock = .ok p) ∧
      ∀ x, today.Matches dialect column [] clock x ↔ clock.dayOf x = clock.today) ∧
    (∀ op ∈ exactDays, ∀ other ∈ exactDays, ∀ values values' x,
      op.Matches dialect column values clock x → other.Matches dialect column values' clock x →
      ∀ y, op.Matches dialect column values clock y ↔ other.Matches dialect column values' clock y) ∧
    ∀ x, clock.offset.HasMidnight (clock.dayOf x) → clock.offset.HasMidnight (clock.dayOf x + 1) →
      ((∃ op ∈ exactDays, ∃ values, op.Matches dialect column values clock x) ↔
        (clock.dayOf x - clock.today).natAbs ≤ 100000) := by
  refine ⟨?_, ?_, ?_, ?_⟩
  · intro v n hv hfirst hlast
    have hn := days?_eq_some_iff.mpr ⟨hv, hfirst, hlast⟩
    refine ⟨?_, ?_, ?_⟩
    · intro op hop hall
      exact ⟨exists_condition_relative htoday hop hn hall dialect column,
        matches_relative htoday hop hn hall dialect column⟩
    · exact fun three hthree hall => existsUnique_matches htoday dialect column hn hthree hall
    · rintro rfl op hop p
      exact condition_today_eq_ok_iff hn hop
  · exact fun hall => ⟨exists_condition_today htoday dialect column hall,
      matches_today htoday dialect column hall⟩
  · exact fun op hop other hother values values' x hx hx' => matches_exactDays_congr hop hother hx hx'
  · exact fun x hstart hstop => exists_matches_exactDays_iff htoday dialect column hstart hstop

/-- Noon of 15 May 2024, where clocks are two hours ahead of UTC. -/
def mayNoon : Clock where
  now := (Instant.ofLocal? 739020 43200 0 ⟨7200, by decide⟩).get (by decide)
  weekStart := .monday

theorem matches_mayNoon : mayNoon.hasToday = true ∧
    daysAhead.Matches .postgresql "entries.spent_on" [.int 7] mayNoon
      ((Instant.ofLocal? 739027 79199 0 .utc).get (by decide)) ∧
    afterDaysAhead.Matches .postgresql "entries.spent_on" [.int 7] mayNoon
      ((Instant.ofLocal? 739027 79200 0 .utc).get (by decide)) := by
  have htoday : mayNoon.hasToday := by decide
  obtain ⟨hclassify, -⟩ := relativeDays_classify htoday .postgresql "entries.spent_on"
  obtain ⟨hmatches, -⟩ := hclassify (.int 7) 7 (by decide) (by decide) (by decide)
  have hinner : ∀ op ∈ [daysAhead, afterDaysAhead], ∀ day ∈ op.midnights [.int 7] mayNoon,
      -95746130 < day ∧ day < 95745398 := by decide
  have hbounds : ∀ op ∈ [daysAhead, afterDaysAhead], op.HasBounds [.int 7] mayNoon := by
    intro op hop day hday
    obtain ⟨hfirst, hlast⟩ := hinner op hop day hday
    exact mayNoon.offset.hasMidnight_of_inner hfirst hlast
  refine ⟨htoday, ?_, ?_⟩
  · rw [(hmatches daysAhead (by decide) (hbounds _ (by decide))).2, Includes]
    decide
  · rw [(hmatches afterDaysAhead (by decide) (hbounds _ (by decide))).2, Includes]
    decide

def farNoon : Instant := (Instant.ofLocal? 839021 43200 0 mayNoon.offset).get (by decide)

theorem not_matches_farNoon : mayNoon.hasToday = true ∧
    mayNoon.offset.HasMidnight (mayNoon.dayOf farNoon) ∧
    mayNoon.offset.HasMidnight (mayNoon.dayOf farNoon + 1) ∧
    ¬∃ op ∈ exactDays, ∃ values,
      op.Matches .postgresql "entries.spent_on" values mayNoon farNoon := by
  have htoday : mayNoon.hasToday := by decide
  have hstart : mayNoon.offset.HasMidnight (mayNoon.dayOf farNoon) :=
    mayNoon.offset.hasMidnight_of_inner (by decide) (by decide)
  have hstop : mayNoon.offset.HasMidnight (mayNoon.dayOf farNoon + 1) :=
    mayNoon.offset.hasMidnight_of_inner (by decide) (by decide)
  refine ⟨htoday, hstart, hstop, ?_⟩
  rw [exists_matches_exactDays_iff htoday _ _ hstart hstop]
  decide

end ReportFilters.Builtin
