import ReportFilters.Proofs.Calendar.Text
import ReportFilters.Proofs.Json.Exact
import ReportFilters.Value.Stored

/-! Values after they were stored. Whatever is stored of a value is read as a value, and the kinds of
value that do not share their stored form with another are read as themselves. -/

namespace ReportFilters.Value

def reread : Value → Value
  | float x => ((Json.parse? (Json.writeReal x)).bind ofJson?).getD (float x)
  | instant t => ofStoredText t.zuluText
  | text s => ofStoredText s
  | v => v

def IsStorable : Value → Prop
  | instant t => t.localDay?.isSome
  | _ => True

instance : DecidablePred IsStorable
  | instant t => inferInstanceAs (Decidable (t.localDay?.isSome = true))
  | null | bool _ | int _ | float _ | day _ | text _ => instDecidableTrue

theorem reread_float {x : Binary64} {j : Json} {v : Value} (hreads : Json.Reads (Json.writeReal x) j)
    (h : ofJson? j = some v) : (float x).reread = v := by
  rw [reread, hreads.parse?, Option.bind_some, h, Option.getD_some]

theorem exists_reads_float (x : Binary64) :
    ∃ j, Json.Reads (Json.writeReal x) j ∧ ofJson? j = some (float x).reread := by
  have hreads : ∃ j v, Json.Reads (Json.writeReal x) j ∧ ofJson? j = some v := by
    cases x with
    | nan => exact ⟨.null, null, Json.reads_null, rfl⟩
    | infinite negative => exact ⟨.null, null, Json.reads_null, rfl⟩
    | finite negative units exact =>
      obtain ⟨x, hx⟩ := Json.exists_reads_writeReal negative exact
      exact ⟨_, float x, hx, rfl⟩
  obtain ⟨j, v, hj, hv⟩ := hreads
  exact ⟨j, hj, hv.trans (congrArg some (reread_float hj hv).symm)⟩

theorem ofStoredText_dayText (d : Day) : ofStoredText d.text = day d := by
  rw [ofStoredText, Calendar.looseInstantOfText?_dayText, Calendar.looseDayOfText?_text]

theorem restores_json {v : Value} (h : v.IsStorable) : Json.Restores v.json ofJson? v.reread := by
  cases v with
  | null => exact ⟨_, _, rfl, Json.reads_null, rfl⟩
  | bool b => exact ⟨_, _, rfl, Json.reads_bool b, rfl⟩
  | int i => exact ⟨_, _, rfl, Json.reads_int i, rfl⟩
  | float x =>
    obtain ⟨j, hj, hread⟩ := exists_reads_float x
    exact ⟨_, j, rfl, hj, hread⟩
  | instant t => exact ⟨_, _, if_pos h, Json.reads_writeText t.zuluText, rfl⟩
  | day d => exact ⟨_, _, rfl, Json.reads_writeText d.text, congrArg some (ofStoredText_dayText d)⟩
  | text s => exact ⟨_, _, rfl, Json.reads_writeText s, rfl⟩

theorem json_of_not_isStorable {v : Value} (h : ¬v.IsStorable) : v.json = .error .offCalendar := by
  cases v with
  | instant t => exact if_neg h
  | _ => exact absurd True.intro h

/-- Values that come back as themselves. A text must not read as an instant or a day. An instant must
be on a day of the calendar where it is, in an offset of whole minutes, and not in a leap second within
a minute. -/
def IsKept : Value → Prop
  | float x => (float x).reread = float x
  | instant t => t.offset.seconds % 60 = 0 ∧ t.localDay?.isSome ∧ t.IsRegular
  | text s =>
    Calendar.looseInstantOfText? s.toList = none ∧ Calendar.looseDayOfText? s.toList = none
  | _ => True

theorem IsKept.isStorable {v : Value} (h : v.IsKept) : v.IsStorable := by
  cases v with
  | instant t => exact h.2.1
  | _ => exact True.intro

theorem isKept_of_isShort {x : Binary64} (h : x.IsShort) : (float x).IsKept :=
  reread_float (Json.reads_writeReal_of_isShort h) rfl

theorem ofStoredText_eq_text_iff {s t : String} : ofStoredText s = text t ↔
    s = t ∧ Calendar.looseInstantOfText? s.toList = none ∧ Calendar.looseDayOfText? s.toList = none := by
  rw [ofStoredText]
  split
  next h => simp [h]
  next h =>
    split
    next hd => simp [hd]
    next hd => simp [h, hd]

theorem reread_instant_eq_self_iff (t : Instant) :
    (instant t).reread = instant t ↔ (instant t).IsKept := by
  rw [reread, ofStoredText, Calendar.looseDayOfText?_zuluText]
  constructor
  · intro h
    split at h
    next u hu =>
      cases h
      exact Calendar.of_looseInstantOfText? hu
    next => cases h
  · rintro ⟨hminutes, hday, hregular⟩
    obtain ⟨d, hd⟩ := Option.isSome_iff_exists.mp hday
    rw [Calendar.looseInstantOfText?_zuluText hminutes, hd, Instant.carried_of_isRegular hregular]
    rfl

theorem reread_eq_self_iff (v : Value) : v.reread = v ↔ v.IsKept := by
  cases v with
  | null | bool b | int i | day d => exact iff_of_true rfl True.intro
  | float x => rfl
  | instant t => exact reread_instant_eq_self_iff t
  | text s => rw [reread, ofStoredText_eq_text_iff, eq_self_iff_true, true_and, IsKept]

instance : DecidablePred IsKept := fun v => decidable_of_iff (v.reread = v) v.reread_eq_self_iff

end ReportFilters.Value
