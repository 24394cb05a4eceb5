import Mathlib.Data.List.Basic
import ReportFilters.Operator.Registry
import ReportFilters.Proofs.Outcome
import ReportFilters.Proofs.Value.Moment

/-! The midnights a condition needs. A built-in operator that accepts its values has a condition for
them exactly if these midnights are instants, in whatever offset; without them the fault is that of
a limit of the calendar and no other. -/

namespace ReportFilters

namespace ValueFault

def IsAtLimit : ValueFault → Prop
  | outOfRange _ => True
  | unusable v => ∃ day, v.moment? = some (.inr day)
  | _ => False

theorem IsAtLimit.failure {fault : ValueFault} (h : fault.IsAtLimit) (token : String) :
    ∃ e, fault.failure token = .error e ∧ e.code = .invalidValue ∧ e.operator = some token := by
  cases fault with
  | outOfRange shift => exact ⟨_, rfl, rfl, rfl⟩
  | unusable v => exact ⟨_, rfl, rfl, rfl⟩
  | missing index => cases h
  | offCalendar => cases h

end ValueFault

namespace Builtin

/-- There as long as these midnights are, and otherwise a fault at a limit. -/
def HangsOn (offset : Offset) (days : List Int) (x : Except ValueFault α) : Prop :=
  ((∀ n ∈ days, offset.HasMidnight n) ∧ ∃ a, x = .ok a) ∨
    (∃ n ∈ days, ¬offset.HasMidnight n) ∧ ∃ fault, x = .error fault ∧ fault.IsAtLimit

theorem hangsOn_ok (offset : Offset) (a : α) : HangsOn offset [] (.ok a) :=
  .inl ⟨by simp, a, rfl⟩

theorem HangsOn.bind {offset : Offset} {first second : List Int} {x : Except ValueFault α}
    {f : α → Except ValueFault β} (hx : HangsOn offset first x)
    (hf : ∀ a, x = .ok a → HangsOn offset second (f a)) :
    HangsOn offset (first ++ second) (x >>= f) := by
  rcases hx with ⟨hall, a, rfl⟩ | ⟨⟨n, hn, hmissing⟩, fault, rfl, hlimit⟩
  · rcases hf a rfl with ⟨hall', b, hb⟩ | ⟨⟨n, hn, hmissing⟩, fault, hfault, hlimit⟩
    · exact .inl ⟨List.forall_mem_append.mpr ⟨hall, hall'⟩, b, hb⟩
    · exact .inr ⟨⟨n, List.mem_append_right _ hn, hmissing⟩, fault, hfault, hlimit⟩
  · exact .inr ⟨⟨n, List.mem_append_left _ hn, hmissing⟩, fault, rfl, hlimit⟩

theorem hangsOn_boundary (clock : Clock) (day shift : Int) :
    HangsOn clock.offset [day + shift] (boundary clock day shift) := by
  unfold HangsOn boundary
  rw [List.forall_mem_singleton]
  by_cases hm : clock.offset.HasMidnight (day + shift)
  · obtain ⟨d, hd, hstart⟩ := hm.ofNumber?
    obtain ⟨t, ht⟩ := Option.isSome_iff_exists.mp hstart
    exact .inl ⟨hm, .instant t, by rw [hd, Option.bind_some, ht]⟩
  · refine .inr ⟨⟨_, List.mem_singleton_self _, hm⟩, .outOfRange shift, ?_, trivial⟩
    have hnone : (Day.ofNumber? (day + shift)).bind (·.start? clock.offset) = none := by
      rw [Option.bind_eq_none_iff]
      intro d hd
      rw [← Day.number_of_ofNumber? hd, d.hasMidnight_iff] at hm
      simpa using hm
    rw [hnone]

theorem hangsOn_dayRange (column : String) (clock : Clock) (day first past : Int) :
    HangsOn clock.offset [day + first, day + past] (dayRange column clock day first past) := by
  have hstop : ∀ start, HangsOn clock.offset [day + past] (boundary clock day past >>= fun stop =>
      pure (⟨column ++ " >= ? AND " ++ column ++ " < ?", [start, stop]⟩ : Predicate)) := fun _ =>
    (hangsOn_boundary clock day past).bind fun _ _ => hangsOn_ok _ _
  exact (hangsOn_boundary clock day first).bind fun start _ => hstop start

theorem hangsOn_fromBoundary (column comparison : String) (clock : Clock) (shift : Int) :
    HangsOn clock.offset [clock.today + shift] (fromBoundary column comparison clock shift) := by
  exact (hangsOn_boundary clock clock.today shift).bind fun _ _ => hangsOn_ok _ _

theorem usable_of_some {read : Value → Option α} {values : List Value} {index : Nat} {v : Value}
    {a : α} (hv : values[index]? = some v) (h : read v = some a) :
    usable read values index = .ok a := by
  simp [usable, valueAt, hv, h]

theorem usable_bind_of_some {read : Value → Option α} {v : Value} {a : α} (h : read v = some a)
    (f : α → Except ValueFault β) : usable read [v] 0 >>= f = f a := by
  rw [usable_of_some rfl h, ok_bind]

theorem usable_of_none {read : Value → Option α} {values : List Value} {index : Nat} {v : Value}
    (hv : values[index]? = some v) (h : read v = none) :
    usable read values index = .error (.unusable v) := by
  simp [usable, valueAt, hv, h]

theorem usable_eq_ok_iff {read : Value → Option α} {values : List Value} {index : Nat} {a : α} :
    usable read values index = .ok a ↔ ∃ v, values[index]? = some v ∧ read v = some a := by
  constructor
  · intro h
    cases hv : values[index]? with
    | none => simp [usable, valueAt, hv] at h
    | some v =>
      cases hread : read v with
      | none =>
        rw [usable_of_none hv hread] at h
        cases h
      | some b =>
        rw [usable_of_some hv hread] at h
        cases h
        exact ⟨v, rfl, hread⟩
  · rintro ⟨v, hv, hread⟩
    exact usable_of_some hv hread

theorem hangsOn_instantAt (values : List Value) (index : Nat) {v : Value}
    (hv : values[index]? = some v) (hdate : Expectation.date.accepts v) (clock : Clock) :
    HangsOn clock.offset v.midnight?.toList (instantAt clock values index) := by
  obtain ⟨moment, hm⟩ := Option.isSome_iff_exists.mp ((Value.accepts_date_iff v).mp hdate)
  rw [Value.midnight?, hm, instantAt]
  cases moment with
  | inl t =>
    rw [usable_of_some hv (Value.instant?_of_inl hm clock.offset)]
    exact hangsOn_ok _ _
  | inr d =>
    have hread := Value.instant?_of_inr hm clock.offset
    rw [HangsOn, Option.toList_some, List.forall_mem_singleton, d.hasMidnight_iff]
    cases ht : d.start? clock.offset with
    | some t =>
      rw [usable_of_some hv (hread.trans ht)]
      exact .inl ⟨rfl, _, rfl⟩
    | none =>
      -- a day in UTC, whose midnight here is no instant
      rw [usable_of_none hv (hread.trans ht)]
      refine .inr ⟨⟨d.number, List.mem_singleton_self _, ?_⟩, .unusable v, rfl, d, hm⟩
      rw [d.hasMidnight_iff, ht]
      exact Bool.false_ne_true

def daysFrom (number : Int) (shifts : List Int) : List Int := shifts.map (number + ·)

def midnights (op : Builtin) (values : List Value) (clock : Clock) : List Int :=
  let counts := values.filterMap days?
  match op with
  | today => daysFrom clock.today [0, 1]
  | thisWeek => daysFrom clock.today [-clock.daysIntoWeek, 7 - clock.daysIntoWeek]
  | daysAhead => counts.flatMap fun n => daysFrom clock.today [n, n + 1]
  | daysAgo => counts.flatMap fun n => daysFrom clock.today [-n, -n + 1]
  | beforeDaysAhead => counts.flatMap fun n => daysFrom clock.today [n]
  | afterDaysAhead => counts.flatMap fun n => daysFrom clock.today [n + 1]
  | beforeDaysAgo => counts.flatMap fun n => daysFrom clock.today [-n]
  | afterDaysAgo => counts.flatMap fun n => daysFrom clock.today [-n + 1]
  | onDate => (values.filterMap (·.momentDay? clock.offset)).flatMap fun n => daysFrom n [0, 1]
  | beforeDate | afterDate | betweenDates => values.filterMap Value.midnight?
  | _ => []

def LeavesCalendar (op : Builtin) (values : List Value) (clock : Clock) : Prop :=
  clock.now.localDay? = none ∨
    op = onDate ∧ ∃ t, values.head?.bind Value.moment? = some (.inl t) ∧
      (t.inOffset clock.offset).localDay? = none

theorem accepts_of_complaints {op : Builtin} {values : List Value}
    (h : op.complaints values = []) {expected : Expectation} (he : op.expectation? = some expected) :
    ∀ v ∈ values, expected.accepts v := by
  intro v hv
  rw [complaints, he] at h
  have hnone := List.map_eq_nil_iff.mp h
  have hnot := List.filter_eq_nil_iff.mp hnone v hv
  simpa using hnot

theorem hangsOn_days {α : Type} {v : Value} (h : Expectation.wholeDays.accepts v) {clock : Clock}
    {days : Int → List Int} {f : Int → Except ValueFault α}
    (hf : ∀ n, HangsOn clock.offset (days n) (f n)) :
    HangsOn clock.offset (([v].filterMap days?).flatMap days) (usable days? [v] 0 >>= f) := by
  obtain ⟨n, hn⟩ := Option.isSome_iff_exists.mp h
  have hlist : ([v].filterMap days?).flatMap days = days n := by simp [hn]
  rw [hlist, usable_bind_of_some hn]
  exact hf n

theorem predicate_onDate (column : String) (values : List Value) (clock : Clock) :
    onDate.predicate column values clock =
      (usable (·.dayNumber? clock.offset) values 0 >>= fun n =>
        if (Day.ofNumber? n).isSome then dayRange column clock n 0 1
        else .error .offCalendar) := rfl

theorem predicate_onDate_of_day {v : Value} {clock : Clock} {n : Int} {d : Day}
    (hn : v.dayNumber? clock.offset = some n) (hd : Day.ofNumber? n = some d) (column : String) :
    onDate.predicate column [v] clock = dayRange column clock n 0 1 := by
  rw [predicate_onDate, usable_bind_of_some hn, hd]
  rfl

theorem hangsOn_onDate {v : Value} (h : Expectation.date.accepts v) {clock : Clock}
    (hcal : ¬onDate.LeavesCalendar [v] clock) (column : String) :
    HangsOn clock.offset (onDate.midnights [v] clock) (onDate.predicate column [v] clock) := by
  obtain ⟨moment, hm⟩ := Option.isSome_iff_exists.mp ((Value.accepts_date_iff v).mp h)
  cases moment with
  | inl t =>
    have hdays : onDate.midnights [v] clock
        = daysFrom (t.inOffset clock.offset).localDayNumber [0, 1] := by
      simp [midnights, Value.momentDay?, hm]
    have hon : (t.inOffset clock.offset).localDay? ≠ none := fun hnone =>
      hcal (.inr ⟨rfl, t, hm, hnone⟩)
    obtain ⟨d, hd⟩ := Option.ne_none_iff_exists'.mp hon
    rw [hdays, predicate_onDate_of_day (Value.dayNumber?_of_inl hm _) hd]
    exact hangsOn_dayRange ..
  | inr d =>
    have hdays : onDate.midnights [v] clock = daysFrom d.number [0, 1] := by
      simp [midnights, Value.momentDay?, hm]
    rw [hdays]
    rcases Value.dayNumber?_of_inr hm clock.offset with hn | ⟨hn, hmissing⟩
    · rw [predicate_onDate_of_day hn d.ofNumber?_number]
      exact hangsOn_dayRange ..
    · -- the value is read as an instant before its day is taken
      rw [predicate_onDate, usable_of_none rfl hn]
      have hmem : d.number + 0 ∈ daysFrom d.number [0, 1] := by simp [daysFrom]
      exact .inr ⟨⟨d.number + 0, hmem, by rwa [Int.add_zero]⟩, .unusable v, rfl, d, hm⟩

theorem predicate_of_leavesCalendar {v : Value} {clock : Clock} {t : Instant}
    (hm : v.moment? = some (.inl t)) (h : (t.inOffset clock.offset).localDay? = none)
    (column : String) : onDate.predicate column [v] clock = .error .offCalendar := by
  rw [predicate_onDate, usable_bind_of_some (Value.dayNumber?_of_inl hm _), ← Instant.localDay?, h]
  rfl

theorem hangsOn_predicate {op : Builtin} {values : List Value} {clock : Clock}
    (hmet : op.arity.isMetBy values.length) (hacc : op.complaints values = [])
    (hcal : ¬op.LeavesCalendar values clock) (column : String) :
    HangsOn clock.offset (op.midnights values clock) (op.predicate column values clock) := by
  have haccepts := @accepts_of_complaints op values hacc
  cases op with
  | equal | notEqual | lessOrEqual | greaterOrEqual | empty | any | present | absent | zero
  | opened | closed => exact hangsOn_ok _ _
  | contains | notContains =>
    obtain ⟨v, rfl⟩ := List.length_eq_one_iff.mp (of_decide_eq_true hmet)
    exact hangsOn_ok _ _
  | numericEqual =>
    obtain ⟨v, rfl⟩ := List.length_eq_one_iff.mp (of_decide_eq_true hmet)
    obtain ⟨x, hx⟩ := Option.isSome_iff_exists.mp (haccepts rfl v (List.mem_singleton_self v))
    rw [predicate, usable_bind_of_some hx]
    exact hangsOn_ok _ _
  | today | thisWeek => exact hangsOn_dayRange ..
  | daysAhead | daysAgo =>
    obtain ⟨v, rfl⟩ := List.length_eq_one_iff.mp (of_decide_eq_true hmet)
    exact hangsOn_days (haccepts rfl v (List.mem_singleton_self v)) fun n => hangsOn_dayRange ..
  | beforeDaysAhead | afterDaysAhead | beforeDaysAgo | afterDaysAgo =>
    obtain ⟨v, rfl⟩ := List.length_eq_one_iff.mp (of_decide_eq_true hmet)
    exact hangsOn_days (haccepts rfl v (List.mem_singleton_self v)) fun n =>
      hangsOn_fromBoundary ..
  | onDate =>
    obtain ⟨v, rfl⟩ := List.length_eq_one_iff.mp (of_decide_eq_true hmet)
    exact hangsOn_onDate (haccepts rfl v (List.mem_singleton_self v)) hcal column
  | beforeDate | afterDate =>
    obtain ⟨v, rfl⟩ := List.length_eq_one_iff.mp (of_decide_eq_true hmet)
    have hv := hangsOn_instantAt [v] 0 rfl (haccepts rfl v (by simp)) clock
    rw [midnights, List.filterMap_eq_flatMap_toList, List.flatMap_cons]
    exact hv.bind fun _ _ => hangsOn_ok _ _
  | betweenDates =>
    obtain ⟨v, w, rfl⟩ := List.length_eq_two.mp (of_decide_eq_true hmet)
    have hv := hangsOn_instantAt [v, w] 0 rfl (haccepts rfl v (by simp)) clock
    have hw := hangsOn_instantAt [v, w] 1 rfl (haccepts rfl w (by simp)) clock
    rw [midnights, List.filterMap_eq_flatMap_toList, List.flatMap_cons, List.flatMap_cons]
    exact hv.bind fun _ _ => hw.bind fun _ _ => hangsOn_ok _ _

end Builtin
end ReportFilters
