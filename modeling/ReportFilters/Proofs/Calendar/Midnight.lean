import ReportFilters.Calendar.Instant

/-! Midnights. A day has one in every offset, unless it is at an end of the calendar and its midnight
comes before the first instant or after the last. In UTC every day has one. -/

namespace ReportFilters

def Instant.IsMidnight (t : Instant) (offset : Offset) (number : Int) : Prop :=
  t.offset = offset ∧ t.localSecond = number * 86400 ∧ t.nano = 0

def Offset.HasMidnight (offset : Offset) (number : Int) : Prop :=
  ∃ day : Day, day.number = number ∧
    ∃ t : Instant, t.offset = offset ∧ t.localSecond = number * 86400 ∧ t.nano = 0

theorem Instant.IsMidnight.unique {t u : Instant} {offset : Offset} {number : Int}
    (ht : t.IsMidnight offset number) (hu : u.IsMidnight offset number) : t = u := by
  obtain ⟨second, nano, _, _, _, _⟩ := t
  obtain ⟨second', nano', _, _, _, _⟩ := u
  obtain ⟨rfl, hsecond, rfl⟩ := ht
  obtain ⟨rfl, hsecond', rfl⟩ := hu
  have heq : second = second' := by
    simp only [Instant.localSecond] at hsecond hsecond'
    omega
  subst heq
  rfl

namespace Day

theorem ofNumber?_number (day : Day) : ofNumber? day.number = some day :=
  dif_pos ⟨day.first_le, day.le_last⟩

theorem number_of_ofNumber? {number : Int} {day : Day} (h : ofNumber? number = some day) :
    day.number = number := by
  unfold ofNumber? at h
  split at h
  · cases h
    rfl
  · cases h

theorem of_start?_eq_some {day : Day} {offset : Offset} {t : Instant}
    (h : day.start? offset = some t) : t.IsMidnight offset day.number := by
  unfold start? Instant.ofLocal? at h
  simp only at h
  split at h
  · cases h
    refine ⟨rfl, ?_, rfl⟩
    simp only [Instant.localSecond]
    omega
  · cases h

theorem localDayNumber_of_start? {day : Day} {offset : Offset} {t : Instant}
    (h : day.start? offset = some t) : t.localDayNumber = day.number := by
  have hsecond := (of_start?_eq_some h).2.1
  rw [Instant.localDayNumber, hsecond]
  omega

theorem start?_isSome {day : Day} {t : Instant} (h : t.localSecond = day.number * 86400) :
    (day.start? t.offset).isSome := by
  have hfirst := t.first_le
  have hend := t.lt_end
  rw [Instant.localSecond] at h
  unfold start? Instant.ofLocal?
  simp only
  rw [dif_pos]
  · rfl
  · refine ⟨?_, ?_, by decide⟩ <;> omega

theorem start?_eq_some_iff {day : Day} {offset : Offset} {t : Instant} :
    day.start? offset = some t ↔ t.IsMidnight offset day.number := by
  constructor
  · exact of_start?_eq_some
  · intro h
    have hoffset := h.1
    have hstart := start?_isSome h.2.1
    rw [hoffset] at hstart
    obtain ⟨u, hu⟩ := Option.isSome_iff_exists.mp hstart
    rw [hu, h.unique (of_start?_eq_some hu)]

theorem hasMidnight_iff (day : Day) (offset : Offset) :
    offset.HasMidnight day.number ↔ (day.start? offset).isSome := by
  constructor
  · rintro ⟨_, _, t, rfl, hsecond, _⟩
    exact start?_isSome hsecond
  · intro h
    obtain ⟨t, ht⟩ := Option.isSome_iff_exists.mp h
    exact ⟨day, rfl, t, of_start?_eq_some ht⟩

theorem start?_utc (day : Day) : (day.start? .utc).isSome := by
  have hfirst := day.first_le
  have hlast := day.le_last
  let t : Instant := ⟨day.number * 86400, 0, .utc, by omega, by omega, by decide⟩
  have hsecond : t.localSecond = day.number * 86400 := Int.add_zero _
  exact start?_isSome hsecond

end Day

namespace Offset

theorem HasMidnight.ofNumber? {offset : Offset} {number : Int} (h : offset.HasMidnight number) :
    ∃ day, Day.ofNumber? number = some day ∧ (day.start? offset).isSome := by
  obtain ⟨day, rfl, t, ht⟩ := h
  exact ⟨day, day.ofNumber?_number, (day.hasMidnight_iff offset).mp ⟨day, rfl, t, ht⟩⟩

theorem hasMidnight_of_inner (offset : Offset) {number : Int} (hfirst : -95746130 < number)
    (hlast : number < 95745398) : offset.HasMidnight number := by
  have hoffset := offset.within
  let t : Instant :=
    ⟨number * 86400 - offset.seconds, 0, offset, by omega, by omega, by decide⟩
  exact ⟨⟨number, by omega, by omega⟩, rfl, t, rfl, Int.sub_add_cancel _ _, rfl⟩

end Offset
end ReportFilters
