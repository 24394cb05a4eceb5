import ReportFilters.Operator.Builtin
import ReportFilters.Proofs.Calendar.Midnight

/-! What a value says of time. Some values stand for an instant, others for a day, and neither hangs
on an offset; only where the day begins does. -/

namespace ReportFilters

namespace Value

open Text (trimmed)

def moment? : Value → Option (Instant ⊕ Day)
  | instant t => some (.inl t)
  | day d => some (.inr d)
  | text s =>
    ((Calendar.instantOfText? (trimmed s.toList)).map Sum.inl).or
      ((Calendar.dayOfText? (trimmed s.toList)).map Sum.inr)
  | _ => none

def momentDay? (offset : Offset) (v : Value) : Option Int :=
  v.moment?.map fun
    | .inl t => (t.inOffset offset).localDayNumber
    | .inr d => d.number

def midnight? (v : Value) : Option Int :=
  match v.moment? with
  | some (.inr d) => some d.number
  | _ => none

theorem momentDay?_of_midnight? {v : Value} {n : Int} (h : v.midnight? = some n)
    (offset : Offset) : v.momentDay? offset = some n := by
  unfold midnight? at h
  split at h
  next d hm =>
    unfold momentDay?
    rw [hm]
    exact h
  next => cases h

theorem not_isNull_of_moment? {v : Value} (h : v.moment?.isSome) : v.isNull = false := by
  cases v with
  | null => cases h
  | _ => rfl

theorem instant?_of_inl {v : Value} {t : Instant} (h : v.moment? = some (.inl t))
    (offset : Offset) : v.instant? offset = some (t.inOffset offset) := by
  cases v with
  | instant u =>
    cases h
    rfl
  | text s =>
    rw [moment?, Option.or_eq_some_iff] at h
    rcases h with h | ⟨_, h⟩
    · obtain ⟨u, hu, hut⟩ := Option.map_eq_some_iff.mp h
      cases hut
      rw [instant?, hu]
    · obtain ⟨day, _, hday⟩ := Option.map_eq_some_iff.mp h
      cases hday
  | _ => cases h

theorem instant?_of_inr {v : Value} {day : Day} (h : v.moment? = some (.inr day))
    (offset : Offset) : v.instant? offset = day.start? offset := by
  cases v with
  | day d =>
    cases h
    rfl
  | text s =>
    rw [moment?, Option.or_eq_some_iff] at h
    rcases h with h | ⟨hnone, h⟩
    · obtain ⟨t, _, ht⟩ := Option.map_eq_some_iff.mp h
      cases ht
    · obtain ⟨d, hd, hday⟩ := Option.map_eq_some_iff.mp h
      cases hday
      rw [instant?, Option.map_eq_none_iff.mp hnone, hd]
      rfl
  | _ => cases h

theorem moment?_of_instant? {v : Value} {offset : Offset} {t : Instant}
    (h : v.instant? offset = some t) : v.moment?.isSome := by
  cases v with
  | instant u => rfl
  | day d => rfl
  | text s =>
    rw [moment?, Option.isSome_or, Bool.or_eq_true, Option.isSome_map, Option.isSome_map]
    rw [instant?] at h
    split at h
    · exact .inl (by simp [*])
    · obtain ⟨d, hd, _⟩ := Option.bind_eq_some_iff.mp h
      exact .inr (by simp [hd])
  | _ => cases h

/-- A date in UTC is a date in every offset, but for midnights that are no instants. -/
theorem accepts_date_iff (v : Value) : Expectation.date.accepts v ↔ v.moment?.isSome := by
  rw [Expectation.accepts]
  constructor
  · intro h
    obtain ⟨t, ht⟩ := Option.isSome_iff_exists.mp h
    exact moment?_of_instant? ht
  · intro h
    obtain ⟨moment, hm⟩ := Option.isSome_iff_exists.mp h
    cases moment with
    | inl t =>
      rw [instant?_of_inl hm]
      rfl
    | inr day =>
      rw [instant?_of_inr hm]
      exact day.start?_utc

theorem dayNumber?_of_ne_day {v : Value} (h : ∀ d, v ≠ day d) (offset : Offset) :
    v.dayNumber? offset = (v.instant? offset).map Instant.localDayNumber := by
  unfold dayNumber?
  split
  · exact absurd rfl (h _)
  · rfl

theorem dayNumber?_of_inl {v : Value} {t : Instant} (h : v.moment? = some (.inl t))
    (offset : Offset) : v.dayNumber? offset = some (t.inOffset offset).localDayNumber := by
  have hne : ∀ d, v ≠ day d := by
    rintro d rfl
    cases h
  rw [dayNumber?_of_ne_day hne, instant?_of_inl h, Option.map_some]

theorem dayNumber?_of_inr {v : Value} {d : Day} (h : v.moment? = some (.inr d))
    (offset : Offset) :
    v.dayNumber? offset = some d.number ∨
      v.dayNumber? offset = none ∧ ¬offset.HasMidnight d.number := by
  by_cases hday : ∃ e, v = day e
  · obtain ⟨e, rfl⟩ := hday
    cases h
    exact .inl rfl
  · rw [dayNumber?_of_ne_day (not_exists.mp hday), instant?_of_inr h, d.hasMidnight_iff]
    cases ht : d.start? offset with
    | none => exact .inr ⟨rfl, by simp⟩
    | some t => exact .inl (by rw [Option.map_some, Day.localDayNumber_of_start? ht])

/-- The instant that a value stands for in an offset: the one it is, in whatever offset that is given, or
the midnight of the day it is. -/
def Denotes (offset : Offset) (v : Value) (t : Instant) : Prop :=
  match v.moment? with
  | none => False
  | some (.inl u) => t = u
  | some (.inr d) => t.IsMidnight offset d.number

section
variable {v : Value} {offset : Offset} {t u : Instant}

theorem Denotes.unique (ht : v.Denotes offset t) (hu : v.Denotes offset u) : t = u := by
  unfold Denotes at ht hu
  cases hm : v.moment? with
  | none =>
    rw [hm] at ht
    exact ht.elim
  | some moment =>
    rw [hm] at ht hu
    cases moment with
    | inl _ => exact Eq.trans ht (Eq.symm hu)
    | inr d => exact Instant.IsMidnight.unique ht hu

theorem Denotes.instant? (h : v.Denotes offset t) :
    v.instant? offset = some (t.inOffset offset) := by
  unfold Denotes at h
  split at h
  · exact h.elim
  next u hm =>
    rw [h]
    exact instant?_of_inl hm offset
  next d hm =>
    have hoffset : t.inOffset offset = t := by
      rw [← h.1]
      rfl
    rw [instant?_of_inr hm, hoffset]
    exact Day.start?_eq_some_iff.mpr h

theorem Denotes.momentDay? (h : v.Denotes offset t) :
    v.momentDay? offset = some (t.inOffset offset).localDayNumber := by
  unfold Denotes at h
  unfold Value.momentDay?
  split at h
  · exact h.elim
  next u hm =>
    rw [hm, h]
    rfl
  next d hm =>
    have hday := Day.localDayNumber_of_start? (Day.start?_eq_some_iff.mpr h)
    rw [hm, ← h.1]
    exact congrArg some hday.symm

theorem exists_denotes (hdate : Expectation.date.accepts v)
    (hmidnight : ∀ n, v.midnight? = some n → offset.HasMidnight n) : ∃ t, v.Denotes offset t := by
  obtain ⟨moment, hm⟩ := Option.isSome_iff_exists.mp ((accepts_date_iff v).mp hdate)
  rw [midnight?, hm] at hmidnight
  unfold Denotes
  rw [hm]
  cases moment with
  | inl u => exact ⟨u, rfl⟩
  | inr d =>
    obtain ⟨_, _, u, hu⟩ := hmidnight d.number rfl
    exact ⟨u, hu⟩

end

end Value

end ReportFilters
