import ReportFilters.Proofs.Operator.Clauses
import ReportFilters.Proofs.Operator.Midnights
import ReportFilters.Proofs.Sql.Bounds

/-! The instants that the conditions of built-in operators select. Where the bounds of a condition are
midnights in the offset of the clock, an instant is before a bound exactly if its calendar day is an
earlier one, so what the condition says of an instant it says of the day. -/

namespace ReportFilters

theorem Arity.prepare_eq_self {values : List Value} (h : ∀ v ∈ values, v.isNull = false) :
    (Arity.fixed values.length).prepare values = values := by
  have hfilter : (values.filter fun v => !v.isNull) = values :=
    List.filter_eq_self.mpr fun v hv => by rw [h v hv]; rfl
  show ((values.filter fun v => !v.isNull).take values.length) = values
  rw [hfilter, List.take_length]

theorem Arity.prepare_eq_self_of_isMetBy {values : List Value}
    (h : (Arity.fixed values.length).isMetBy ((Arity.fixed values.length).prepare values).length) :
    (Arity.fixed values.length).prepare values = values := by
  have hsublist : ((Arity.fixed values.length).prepare values).Sublist values :=
    (List.take_sublist ..).trans List.filter_sublist
  exact hsublist.eq_of_length (of_decide_eq_true h)

def Clock.dayOf (clock : Clock) (x : Instant) : Int := (x.inOffset clock.offset).localDayNumber

theorem Instant.IsMidnight.before_iff {clock : Clock} {t : Instant} {number : Int}
    (h : t.IsMidnight clock.offset number) (x : Instant) :
    x.Before t ↔ clock.dayOf x < number := by
  obtain ⟨hoffset, hsecond, hnano⟩ := h
  rw [Instant.localSecond, hoffset] at hsecond
  rw [Instant.Before, Clock.dayOf, Instant.localDayNumber, Instant.localSecond, Instant.inOffset, hnano]
  dsimp only
  omega

namespace Builtin

section
variable {column : String} {clock : Clock} {p : Predicate}

theorem exists_midnight_of_boundary {day shift : Int} {bound : Value}
    (h : boundary clock day shift = .ok bound) :
    ∃ t : Instant, bound = .instant t ∧ t.IsMidnight clock.offset (day + shift) := by
  rw [boundary] at h
  split at h
  next t ht =>
    cases h
    obtain ⟨d, hd, hstart⟩ := Option.bind_eq_some_iff.mp ht
    refine ⟨t, rfl, ?_⟩
    rw [← Day.number_of_ofNumber? hd]
    exact Day.of_start?_eq_some hstart
  next => cases h

theorem exists_conjunction_of_dayRange {day first past : Int}
    (h : dayRange column clock day first past = .ok p) :
    ∃ start stop : Instant, start.IsMidnight clock.offset (day + first) ∧
      stop.IsMidnight clock.offset (day + past) ∧
      p = Bound.conjunction column [⟨.greaterOrEqual, start⟩, ⟨.less, stop⟩] := by
  obtain ⟨lower, hlower, h⟩ := exists_of_bind_eq_ok h
  obtain ⟨upper, hupper, h⟩ := exists_of_bind_eq_ok h
  obtain ⟨start, rfl, hstart⟩ := exists_midnight_of_boundary hlower
  obtain ⟨stop, rfl, hstop⟩ := exists_midnight_of_boundary hupper
  refine ⟨start, stop, hstart, hstop, ?_⟩
  cases h
  simp [Bound.conjunction, Bound.text, Comparison.text, String.intercalate_cons_cons,
    String.append_assoc]

theorem dayRange_eq_ok_iff {day first past : Int} :
    dayRange column clock day first past = .ok p ↔
      clock.offset.HasMidnight (day + first) ∧ clock.offset.HasMidnight (day + past) ∧
        ∃ start stop : Instant, start.IsMidnight clock.offset (day + first) ∧
          stop.IsMidnight clock.offset (day + past) ∧
          p = Bound.conjunction column [⟨.greaterOrEqual, start⟩, ⟨.less, stop⟩] := by
  have hhangs := hangsOn_dayRange column clock day first past
  constructor
  · intro h
    rcases hhangs with ⟨hall, _⟩ | ⟨_, fault, hfault, _⟩
    · rw [List.forall_mem_cons, List.forall_mem_singleton] at hall
      exact ⟨hall.1, hall.2, exists_conjunction_of_dayRange h⟩
    · rw [hfault] at h
      cases h
  · rintro ⟨hfirst, hpast, start, stop, hstart, hstop, rfl⟩
    rcases hhangs with ⟨_, q, hq⟩ | ⟨⟨n, hn, hmissing⟩, _⟩
    · obtain ⟨start', stop', hstart', hstop', rfl⟩ := exists_conjunction_of_dayRange hq
      rw [hq, hstart.unique hstart', hstop.unique hstop']
    · simp only [List.mem_cons, List.not_mem_nil, or_false] at hn
      rcases hn with rfl | rfl
      · exact absurd hfirst hmissing
      · exact absurd hpast hmissing

theorem selects_between {start stop : Instant} {first past : Int}
    (hstart : start.IsMidnight clock.offset first) (hstop : stop.IsMidnight clock.offset past)
    (x : Instant) :
    (Bound.conjunction column [⟨.greaterOrEqual, start⟩, ⟨.less, stop⟩]).Selects column x
      ↔ first ≤ clock.dayOf x ∧ clock.dayOf x < past := by
  rw [Predicate.selects_conjunction, List.forall_mem_cons, List.forall_mem_singleton]
  exact and_congr ((not_congr (hstart.before_iff x)).trans Int.not_lt) (hstop.before_iff x)

theorem selects_dayRange {day first past : Int} (h : dayRange column clock day first past = .ok p)
    (x : Instant) :
    p.Selects column x ↔ day + first ≤ clock.dayOf x ∧ clock.dayOf x < day + past := by
  obtain ⟨start, stop, hstart, hstop, rfl⟩ := exists_conjunction_of_dayRange h
  exact selects_between hstart hstop x

theorem exists_conjunction_of_fromBoundary {comparison : String} {c : Comparison}
    (hc : c.text = " " ++ comparison ++ " ?") {shift : Int}
    (h : fromBoundary column comparison clock shift = .ok p) :
    ∃ t : Instant, t.IsMidnight clock.offset (clock.today + shift) ∧
      p = Bound.conjunction column [⟨c, t⟩] := by
  obtain ⟨bound, hbound, h⟩ := exists_of_bind_eq_ok h
  obtain ⟨t, rfl, ht⟩ := exists_midnight_of_boundary hbound
  refine ⟨t, ht, ?_⟩
  cases h
  simp [Bound.conjunction, Bound.text, hc, String.append_assoc]

theorem selects_before {shift : Int} (h : fromBoundary column "<" clock shift = .ok p) (x : Instant) :
    p.Selects column x ↔ clock.dayOf x < clock.today + shift := by
  obtain ⟨t, ht, rfl⟩ := exists_conjunction_of_fromBoundary (c := .less) rfl h
  rw [Predicate.selects_conjunction, List.forall_mem_singleton]
  exact ht.before_iff x

theorem selects_from {shift : Int} (h : fromBoundary column ">=" clock shift = .ok p) (x : Instant) :
    p.Selects column x ↔ clock.today + shift ≤ clock.dayOf x := by
  obtain ⟨t, ht, rfl⟩ := exists_conjunction_of_fromBoundary (c := .greaterOrEqual) rfl h
  rw [Predicate.selects_conjunction, List.forall_mem_singleton]
  exact (not_congr (ht.before_iff x)).trans Int.not_lt

end

def HasBounds (op : Builtin) (values : List Value) (clock : Clock) : Prop :=
  ∀ day ∈ op.midnights values clock, clock.offset.HasMidnight day

def Matches (op : Builtin) (dialect : Dialect) (column : String) (values : List Value)
    (clock : Clock) (x : Instant) : Prop :=
  ∃ p, op.condition dialect column values clock = .ok p ∧ p.Selects (dialect.quoteQualified column) x

theorem condition_eq_ok_iff {op : Builtin} {dialect : Dialect} {column : String}
    {values : List Value} {clock : Clock} {p : Predicate} :
    op.condition dialect column values clock = .ok p ↔ clock.hasToday = true ∧
      op.arity.isMetBy (op.arity.prepare values).length = true ∧
      op.predicate (dialect.quoteQualified column) (op.arity.prepare values) clock = .ok p := by
  constructor
  · intro h
    obtain ⟨hmet, _, hclause⟩ := Operator.outcome_eq_ok h
    obtain ⟨htoday, hpredicate⟩ := clause_eq_ok_iff.mp hclause
    exact ⟨htoday, hmet, hpredicate⟩
  · rintro ⟨htoday, hmet, hpredicate⟩
    rw [condition, outcome_of_isMetBy hmet]
    exact clause_eq_ok_iff.mpr ⟨htoday, hpredicate⟩

theorem condition_all_eq_ok_iff {op : Builtin} {dialect : Dialect} {column : String}
    {values : List Value} {clock : Clock} {p : Predicate} (harity : op.arity = .fixed values.length) :
    op.condition dialect column values clock = .ok p ↔ clock.hasToday = true ∧
      op.arity.prepare values = values ∧
      op.predicate (dialect.quoteQualified column) values clock = .ok p := by
  rw [condition_eq_ok_iff, harity]
  constructor
  · rintro ⟨htoday, hmet, hpredicate⟩
    have hprepare := Arity.prepare_eq_self_of_isMetBy hmet
    rw [hprepare] at hpredicate
    exact ⟨htoday, hprepare, hpredicate⟩
  · rintro ⟨htoday, hprepare, hpredicate⟩
    rw [hprepare]
    exact ⟨htoday, decide_eq_true rfl, hpredicate⟩

theorem condition_congr {op : Builtin} {values others : List Value}
    (h : op.arity.prepare values = op.arity.prepare others) (dialect : Dialect) (column : String)
    (clock : Clock) :
    op.condition dialect column values clock = op.condition dialect column others clock := by
  unfold condition Operator.outcome
  rw [show (Operator.builtin op).prepare values = (Operator.builtin op).prepare others from h]

theorem Matches.iff_selects {op : Builtin} {dialect : Dialect} {column : String}
    {values : List Value} {clock : Clock} {p : Predicate}
    (h : op.condition dialect column values clock = .ok p) (x : Instant) :
    op.Matches dialect column values clock x ↔ p.Selects (dialect.quoteQualified column) x := by
  constructor
  · rintro ⟨q, hq, hselects⟩
    rwa [← Except.ok.inj (hq.symm.trans h)]
  · exact fun hselects => ⟨p, h, hselects⟩

theorem exists_condition {op : Builtin} {values : List Value} {clock : Clock} (htoday : clock.hasToday)
    (hdate : op ≠ onDate) (hprepare : op.arity.prepare values = values)
    (hmet : op.arity.isMetBy values.length) (hacc : op.complaints values = [])
    (hall : op.HasBounds values clock) (dialect : Dialect) (column : String) :
    ∃ p, op.condition dialect column values clock = .ok p := by
  have hcal : ¬op.LeavesCalendar values clock := by
    rintro (hnone | ⟨hop, _⟩)
    · rw [Clock.hasToday, hnone] at htoday
      cases htoday
    · exact hdate hop
  rcases hangsOn_predicate hmet hacc hcal (dialect.quoteQualified column) with
    ⟨_, p, hp⟩ | ⟨⟨day, hday, hmissing⟩, _⟩
  · refine ⟨p, condition_eq_ok_iff.mpr ⟨htoday, ?_, ?_⟩⟩
    · rwa [hprepare]
    · rwa [hprepare]
  · exact absurd (hall day hday) hmissing

end Builtin
end ReportFilters
