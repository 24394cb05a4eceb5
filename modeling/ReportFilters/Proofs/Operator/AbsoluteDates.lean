import ReportFilters.Proofs.Operator.RelativeDays

/-! Operators on dates that are given as such. A date stands for an instant, its own or that of a midnight,
and what is selected lies before, after or between such instants, or on the same calendar day. -/

namespace ReportFilters

namespace Builtin

section
variable {dialect : Dialect} {column : String} {clock : Clock} {p : Predicate}

theorem instantAt_eq_ok_iff {values : List Value} {index : Nat} {bound : Value} :
    instantAt clock values index = .ok bound ↔
      ∃ v t, values[index]? = some v ∧ v.instant? clock.offset = some t ∧ bound = .instant t := by
  unfold instantAt
  constructor
  · intro h
    cases hread : usable (·.instant? clock.offset) values index with
    | error fault =>
      rw [hread] at h
      cases h
    | ok t =>
      rw [hread] at h
      cases h
      obtain ⟨v, hv, ht⟩ := usable_eq_ok_iff.mp hread
      exact ⟨v, t, hv, ht, rfl⟩
  · rintro ⟨v, t, hv, ht, rfl⟩
    rw [usable_of_some hv ht]
    rfl

def dateBounds : List (Builtin × Comparison) := [(beforeDate, .less), (afterDate, .greater)]

theorem predicate_dateBounds {op : Builtin} {c : Comparison} (hop : (op, c) ∈ dateBounds)
    (column : String) (values : List Value) (clock : Clock) :
    op.predicate column values clock
      = (do pure ⟨column ++ c.text, [← instantAt clock values 0]⟩) := by
  simp only [dateBounds, List.mem_cons, List.not_mem_nil, or_false, Prod.mk.injEq] at hop
  rcases hop with ⟨rfl, rfl⟩ | ⟨rfl, rfl⟩ <;> rfl

theorem condition_dateBounds_eq_ok_iff {op : Builtin} {c : Comparison} (hop : (op, c) ∈ dateBounds)
    {v : Value} :
    op.condition dialect column [v] clock = .ok p ↔ clock.hasToday = true ∧
      ∃ t, v.instant? clock.offset = some t ∧
        p = Bound.conjunction (dialect.quoteQualified column) [⟨c, t⟩] := by
  have harity : op.arity = .fixed [v].length := by
    simp only [dateBounds, List.mem_cons, List.not_mem_nil, or_false, Prod.mk.injEq] at hop
    rcases hop with ⟨rfl, _⟩ | ⟨rfl, _⟩ <;> rfl
  rw [condition_all_eq_ok_iff harity, predicate_dateBounds hop]
  apply and_congr_right
  intro _
  constructor
  · rintro ⟨_, hpredicate⟩
    obtain ⟨bound, hbound, hp⟩ := exists_of_bind_eq_ok hpredicate
    obtain ⟨w, t, hw, ht, rfl⟩ := instantAt_eq_ok_iff.mp hbound
    cases hw
    cases hp
    exact ⟨t, ht, rfl⟩
  · rintro ⟨t, ht, rfl⟩
    have hbound : instantAt clock [v] 0 = .ok (.instant t) :=
      instantAt_eq_ok_iff.mpr ⟨v, t, rfl, ht, rfl⟩
    rw [harity, hbound]
    refine ⟨Arity.prepare_eq_self ?_, rfl⟩
    rw [List.forall_mem_singleton]
    exact Value.not_isNull_of_moment? (Value.moment?_of_instant? ht)

theorem condition_betweenDates_eq_ok_iff {v w : Value} :
    betweenDates.condition dialect column [v, w] clock = .ok p ↔ clock.hasToday = true ∧
      ∃ t u, v.instant? clock.offset = some t ∧ w.instant? clock.offset = some u ∧
        p = Bound.conjunction (dialect.quoteQualified column) [⟨.greater, t⟩, ⟨.less, u⟩] := by
  have harity : betweenDates.arity = .fixed [v, w].length := rfl
  have hfragment : ∀ t u : Instant,
      (⟨dialect.quoteQualified column ++ " > ? AND " ++ dialect.quoteQualified column ++ " < ?",
        [.instant t, .instant u]⟩ : Predicate)
      = Bound.conjunction (dialect.quoteQualified column) [⟨.greater, t⟩, ⟨.less, u⟩] := by
    intro t u
    simp [Bound.conjunction, Bound.text, Comparison.text, String.intercalate_cons_cons,
      String.append_assoc]
  rw [condition_all_eq_ok_iff harity]
  apply and_congr_right
  intro _
  constructor
  · rintro ⟨_, hpredicate⟩
    obtain ⟨lower, hlower, hpredicate⟩ := exists_of_bind_eq_ok hpredicate
    obtain ⟨upper, hupper, hp⟩ := exists_of_bind_eq_ok hpredicate
    obtain ⟨v', t, hv, ht, rfl⟩ := instantAt_eq_ok_iff.mp hlower
    obtain ⟨w', u, hw, hu, rfl⟩ := instantAt_eq_ok_iff.mp hupper
    cases hv
    cases hw
    cases hp
    exact ⟨t, u, ht, hu, hfragment t u⟩
  · rintro ⟨t, u, ht, hu, rfl⟩
    have hlower : instantAt clock [v, w] 0 = .ok (.instant t) :=
      instantAt_eq_ok_iff.mpr ⟨v, t, rfl, ht, rfl⟩
    have hupper : instantAt clock [v, w] 1 = .ok (.instant u) :=
      instantAt_eq_ok_iff.mpr ⟨w, u, rfl, hu, rfl⟩
    constructor
    · rw [harity]
      apply Arity.prepare_eq_self
      rw [List.forall_mem_cons, List.forall_mem_singleton]
      exact ⟨Value.not_isNull_of_moment? (Value.moment?_of_instant? ht),
        Value.not_isNull_of_moment? (Value.moment?_of_instant? hu)⟩
    · rw [predicate, hlower, hupper, ← hfragment]
      rfl

theorem condition_onDate_eq_ok_iff {v : Value} {day : Int}
    (hday : v.momentDay? clock.offset = some day) :
    onDate.condition dialect column [v] clock = .ok p ↔ clock.hasToday = true ∧
      dayRange (dialect.quoteQualified column) clock day 0 1 = .ok p := by
  obtain ⟨moment, hm, hnumber⟩ := Option.map_eq_some_iff.mp hday
  have hpresent : v.isNull = false := Value.not_isNull_of_moment? (by rw [hm]; rfl)
  have hprepare : onDate.arity.prepare [v] = [v] :=
    Arity.prepare_eq_self (List.forall_mem_singleton.mpr hpresent)
  rw [condition_all_eq_ok_iff rfl]
  refine and_congr_right fun _ => (and_iff_right hprepare).trans ?_
  have hread : v.dayNumber? clock.offset = some day ∨
      v.dayNumber? clock.offset = none ∧ ¬clock.offset.HasMidnight day := by
    cases moment with
    | inl t => exact .inl ((Value.dayNumber?_of_inl hm clock.offset).trans (congrArg some hnumber))
    | inr d =>
      cases hnumber
      exact Value.dayNumber?_of_inr hm clock.offset
  -- without a midnight there is neither a day to read nor a range from it
  have hstart : ∀ q, dayRange (dialect.quoteQualified column) clock day 0 1 = .ok q →
      clock.offset.HasMidnight day := by
    intro q hq
    have hfirst := (dayRange_eq_ok_iff.mp hq).1
    rwa [Int.add_zero] at hfirst
  rcases hread with hread | ⟨hread, hmissing⟩
  · cases hd : Day.ofNumber? day with
    | some d => rw [predicate_onDate_of_day hread hd]
    | none =>
      rw [predicate_onDate, usable_bind_of_some hread, hd]
      constructor
      · rintro ⟨⟩
      · intro hrange
        obtain ⟨d, hsome, _⟩ := (hstart p hrange).ofNumber?
        rw [hd] at hsome
        cases hsome
  · rw [predicate_onDate, usable_of_none rfl hread]
    constructor
    · rintro ⟨⟩
    · exact fun hrange => absurd (hstart p hrange) hmissing

theorem condition_onDate_iff_daysAhead {v w : Value} {n : Int}
    (hv : v.midnight? = some (clock.today + n)) (hw : days? w = some n) (p : Predicate) :
    onDate.condition dialect column [v] clock = .ok p ↔
      daysAhead.condition dialect column [w] clock = .ok p := by
  have hday : v.momentDay? clock.offset = some (clock.today + n) := Value.momentDay?_of_midnight? hv _
  have hcounted : daysAhead.condition dialect column [w] clock = .ok p ↔ clock.hasToday = true ∧
      dayRange (dialect.quoteQualified column) clock clock.today n (n + 1) = .ok p := by
    have husable : usable days? [w] 0 = .ok n := usable_of_some rfl hw
    have hprepare : daysAhead.arity.prepare [w] = [w] := prepare_relative (by decide) hw
    rw [condition_all_eq_ok_iff rfl, predicate, husable]
    exact and_congr_right fun _ => and_iff_right hprepare
  rw [hcounted, condition_onDate_eq_ok_iff hday, dayRange_eq_ok_iff, dayRange_eq_ok_iff,
    Int.add_zero, Int.add_assoc]

end

section
variable {clock : Clock} (htoday : clock.hasToday) (dialect : Dialect) (column : String)
include htoday

theorem matches_dateBounds_iff {op : Builtin} {c : Comparison} (hop : (op, c) ∈ dateBounds)
    (v : Value) (x : Instant) :
    op.Matches dialect column [v] clock x ↔
      ∃ t, v.instant? clock.offset = some t ∧ c.Holds x t := by
  unfold Matches
  constructor
  · rintro ⟨p, hp, hselects⟩
    obtain ⟨_, t, ht, rfl⟩ := (condition_dateBounds_eq_ok_iff hop).mp hp
    rw [Predicate.selects_conjunction, List.forall_mem_singleton] at hselects
    exact ⟨t, ht, hselects⟩
  · rintro ⟨t, ht, hholds⟩
    refine ⟨_, (condition_dateBounds_eq_ok_iff hop).mpr ⟨htoday, t, ht, rfl⟩, ?_⟩
    rw [Predicate.selects_conjunction, List.forall_mem_singleton]
    exact hholds

theorem matches_betweenDates_iff (v w : Value) (x : Instant) :
    betweenDates.Matches dialect column [v, w] clock x ↔
      afterDate.Matches dialect column [v] clock x ∧
        beforeDate.Matches dialect column [w] clock x := by
  rw [matches_dateBounds_iff htoday dialect column (c := .greater) (by decide),
    matches_dateBounds_iff htoday dialect column (c := .less) (by decide)]
  unfold Matches
  constructor
  · rintro ⟨p, hp, hselects⟩
    obtain ⟨_, t, u, ht, hu, rfl⟩ := condition_betweenDates_eq_ok_iff.mp hp
    rw [Predicate.selects_conjunction, List.forall_mem_cons, List.forall_mem_singleton] at hselects
    exact ⟨⟨t, ht, hselects.1⟩, ⟨u, hu, hselects.2⟩⟩
  · rintro ⟨⟨t, ht, hlower⟩, ⟨u, hu, hupper⟩⟩
    refine ⟨_, condition_betweenDates_eq_ok_iff.mpr ⟨htoday, t, u, ht, hu, rfl⟩, ?_⟩
    rw [Predicate.selects_conjunction, List.forall_mem_cons, List.forall_mem_singleton]
    exact ⟨hlower, hupper⟩

theorem matches_dateBounds_of_denotes {op : Builtin} {c : Comparison} (hop : (op, c) ∈ dateBounds)
    {v : Value} {i : Instant} (hv : v.Denotes clock.offset i) (x : Instant) :
    op.Matches dialect column [v] clock x ↔ c.Holds x i := by
  rw [matches_dateBounds_iff htoday dialect column hop, hv.instant?]
  constructor
  · rintro ⟨t, ht, hholds⟩
    cases ht
    exact (c.holds_inOffset x i _).mp hholds
  · exact fun hholds => ⟨_, rfl, (c.holds_inOffset x i _).mpr hholds⟩

theorem matches_onDate_of_denotes {v : Value} {i : Instant} (hv : v.Denotes clock.offset i)
    (hstart : clock.offset.HasMidnight (clock.dayOf i))
    (hnext : clock.offset.HasMidnight (clock.dayOf i + 1)) (x : Instant) :
    onDate.Matches dialect column [v] clock x ↔ clock.dayOf x = clock.dayOf i := by
  obtain ⟨_, _, start, hfirst⟩ := id hstart
  obtain ⟨_, _, stop, hlast⟩ := id hnext
  rw [← Int.add_zero (clock.dayOf i)] at hstart hfirst
  let p := Bound.conjunction (dialect.quoteQualified column) [⟨.greaterOrEqual, start⟩, ⟨.less, stop⟩]
  have hrange : dayRange (dialect.quoteQualified column) clock (clock.dayOf i) 0 1 = .ok p :=
    dayRange_eq_ok_iff.mpr ⟨hstart, hnext, start, stop, hfirst, hlast, rfl⟩
  have hcondition := (condition_onDate_eq_ok_iff hv.momentDay?).mpr ⟨htoday, hrange⟩
  rw [Matches.iff_selects hcondition, selects_dayRange hrange]
  omega

end

/-- A date that is accepted stands for one instant, unless it is a day without a midnight. Before, after and
between dates are before, after and between these instants, on a date is on the same calendar day, and a day
that is counted from today is selected as if it were named. -/
theorem absoluteDates_compare {clock : Clock} (htoday : clock.hasToday) (dialect : Dialect)
    (column : String) :
    (∀ v, Expectation.date.accepts v →
      (∀ day, v.midnight? = some day → clock.offset.HasMidnight day) →
      ∃! i, v.Denotes clock.offset i) ∧
    (∀ v i, v.Denotes clock.offset i →
      (∀ x, beforeDate.Matches dialect column [v] clock x ↔ x.Before i) ∧
      (∀ x, afterDate.Matches dialect column [v] clock x ↔ i.Before x) ∧
      (clock.offset.HasMidnight (clock.dayOf i) → clock.offset.HasMidnight (clock.dayOf i + 1) →
        ∀ x, onDate.Matches dialect column [v] clock x ↔ clock.dayOf x = clock.dayOf i) ∧
      ∀ w j, w.Denotes clock.offset j → ∀ x,
        betweenDates.Matches dialect column [v, w] clock x ↔ i.Before x ∧ x.Before j) ∧
    (∀ v w x, betweenDates.Matches dialect column [v, w] clock x ↔
      afterDate.Matches dialect column [v] clock x ∧
        beforeDate.Matches dialect column [w] clock x) ∧
    ∀ v w n, v.midnight? = some (clock.today + n) → w.int64?.map Int64.toInt = some n →
      0 ≤ n → n ≤ 100000 → ∀ p, onDate.condition dialect column [v] clock = .ok p ↔
        daysAhead.condition dialect column [w] clock = .ok p := by
  have hbefore : (beforeDate, Comparison.less) ∈ dateBounds := by decide
  have hafter : (afterDate, Comparison.greater) ∈ dateBounds := by decide
  refine ⟨?_, ?_, matches_betweenDates_iff htoday dialect column, ?_⟩
  · intro v hdate hmidnight
    obtain ⟨i, hi⟩ := Value.exists_denotes hdate hmidnight
    exact ⟨i, hi, fun j hj => hj.unique hi⟩
  · intro v i hv
    refine ⟨matches_dateBounds_of_denotes htoday dialect column hbefore hv,
      matches_dateBounds_of_denotes htoday dialect column hafter hv,
      matches_onDate_of_denotes htoday dialect column hv, ?_⟩
    intro w j hw x
    rw [matches_betweenDates_iff htoday, matches_dateBounds_of_denotes htoday _ _ hafter hv,
      matches_dateBounds_of_denotes htoday _ _ hbefore hw]
    exact Iff.rfl
  · intro v w n hv hw hfirst hlast p
    exact condition_onDate_iff_daysAhead hv (days?_eq_some_iff.mpr ⟨hw, hfirst, hlast⟩) p

/-- Half an hour before the end of 15 May in UTC, which is on 16 May where clocks are two hours ahead. -/
def lateMay : Value := .text " 2024-05-15T23:30:00Z"

theorem absoluteDates_compare_lateMay : ∃ i, mayNoon.hasToday = true ∧
    lateMay.Denotes mayNoon.offset i ∧
    mayNoon.offset.HasMidnight (mayNoon.dayOf i) ∧ mayNoon.offset.HasMidnight (mayNoon.dayOf i + 1) ∧
    onDate.Matches .postgresql "entries.spent_on" [lateMay] mayNoon
      ((Instant.ofLocal? 739020 79200 0 .utc).get (by decide)) ∧
    ¬onDate.Matches .postgresql "entries.spent_on" [lateMay] mayNoon
      ((Instant.ofLocal? 739020 79199 0 .utc).get (by decide)) := by
  have htoday : mayNoon.hasToday := by decide
  obtain ⟨-, hcompare, -, -⟩ := absoluteDates_compare htoday .postgresql "entries.spent_on"
  let i : Instant := (Instant.ofLocal? 739020 84600 0 .utc).get (by decide)
  have hmoment : lateMay.moment? = some (.inl i) := by decide +kernel
  have hi : lateMay.Denotes mayNoon.offset i := by
    unfold Value.Denotes
    rw [hmoment]
  have hday : mayNoon.dayOf i = 739021 := by decide
  have hstart : mayNoon.offset.HasMidnight (mayNoon.dayOf i) := by
    rw [hday]
    exact mayNoon.offset.hasMidnight_of_inner (by decide) (by decide)
  have hnext : mayNoon.offset.HasMidnight (mayNoon.dayOf i + 1) := by
    rw [hday]
    exact mayNoon.offset.hasMidnight_of_inner (by decide) (by decide)
  have hmatches := (hcompare lateMay i hi).2.2.1 hstart hnext
  refine ⟨i, htoday, hi, hstart, hnext, ?_, ?_⟩
  · rw [hmatches, hday]
    decide
  · rw [hmatches, hday]
    decide

end Builtin
end ReportFilters
