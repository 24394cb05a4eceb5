import ReportFilters.Proofs.Calendar.Text
import ReportFilters.Proofs.Text.Blank

/-! The strict forms, which have four digits for the year. What is written of a day or an instant in those
years is read as just that, and a day is never taken for an instant. -/

namespace ReportFilters

def CivilDate.InFourDigits (number : Int) : Prop := 0 ≤ yearOf number ∧ yearOf number ≤ 9999

instance (number : Int) : Decidable (CivilDate.InFourDigits number) :=
  inferInstanceAs (Decidable (_ ∧ _))

theorem CivilDate.InFourDigits.bounds {number : Int} (h : InFourDigits number) :
    -1000000 < number ∧ number < 4000000 := by
  obtain ⟨hfirst, hlast⟩ := h
  obtain ⟨hafter, hbefore⟩ := yearOf_spec number
  have hleast := daysBeforeYear_bounds (yearOf number)
  have hmost := daysBeforeYear_bounds (yearOf number + 1)
  omega

namespace Calendar

open CivilDate (padLeft)
open Numeral (isDigit)
open Text (Unblank unblank_append)

theorem toList_text_inFourDigits {number : Int} (h : CivilDate.InFourDigits number) (rest : List Char) :
    (CivilDate.ofNumber number).text.toList ++ rest
      = (padLeft 4 (CivilDate.yearOf number).natAbs).toList ++
        '-' :: ((padLeft 2 (CivilDate.ofNumber number).month).toList ++
          '-' :: ((padLeft 2 (CivilDate.ofNumber number).day).toList ++ rest)) := by
  obtain ⟨hfirst, hlast⟩ := h
  have hyear : (CivilDate.ofNumber number).year = CivilDate.yearOf number := rfl
  have htext := toList_yearText (CivilDate.yearOf number)
  rw [if_neg (by omega), if_neg (by omega), List.nil_append] at htext
  simp [CivilDate.text, String.toList_append, hyear, htext]

theorem instantOfText?_dayText {day : Day} (h : CivilDate.InFourDigits day.number) :
    instantOfText? day.text.toList = none := by
  obtain ⟨-, hmonth, hday⟩ := CivilDate.number?_ofNumber day.number
  have htext := toList_text_inFourDigits h []
  have hyear : (CivilDate.yearOf day.number).natAbs < 10000 := by
    obtain ⟨hfirst, hlast⟩ := h
    omega
  rw [List.append_nil] at htext
  -- after the day of month nothing is left that could separate it from a time
  rw [instantOfText?, Day.text, Day.civil, htext]
  simp only [Option.bind_eq_bind, Option.bind_some, readChar, if_true,
    readNumber_padLeft (by decide : 4 ≤ 4) (by decide) hyear,
    readNumber_padLeft (by decide : 2 ≤ 2) (by decide) hmonth,
    readNumber_padLeft (by decide : 2 ≤ 2) (by decide) hday]
  rfl

theorem readChar_colon (width n : Nat) (rest : List Char) :
    readChar ':' (':' :: ((padLeft width n).toList ++ rest)) = some ((padLeft width n).toList ++ rest) := by
  rw [readChar, if_pos rfl]

structure IsZone (offset : Offset) (zone : List Char) : Prop where
  read : readOffset (readChar ':') zone = some (offset, [])
  stops : Stops isDigit zone
  point : ∀ rest, zone ≠ '.' :: rest

theorem isZone_of_cons {offset : Offset} {zone : List Char}
    (hread : readOffset (readChar ':') zone = some (offset, []))
    (h : ∃ c more, zone = c :: more ∧ (c = 'Z' ∨ c = '+' ∨ c = '-')) : IsZone offset zone := by
  obtain ⟨c, more, rfl, hc⟩ := h
  refine ⟨hread, ?_, ?_⟩
  · rcases hc with rfl | rfl | rfl <;> exact stops_isDigit_cons (by decide) _
  · intro rest heq
    rcases hc with rfl | rfl | rfl <;> exact absurd (List.cons.inj heq).1 (by decide)

theorem isZone_zoneText {offset : Offset} (h : offset.seconds % 60 = 0) :
    IsZone offset (zoneText offset).toList :=
  isZone_of_cons (readOffset_zoneText readChar_colon h) (exists_zoneText offset)

theorem isZone_text {offset : Offset} (h : offset.seconds % 60 = 0) :
    IsZone offset offset.text.toList := by
  refine isZone_of_cons (readOffset_text readChar_colon h) ?_
  have htext := toList_offsetText offset []
  rw [List.append_nil] at htext
  refine ⟨_, _, htext, ?_⟩
  split
  · exact .inr (.inr rfl)
  · exact .inr (.inl rfl)

theorem instantOfText?_clockText {t : Instant} (h : CivilDate.InFourDigits t.localDayNumber)
    (hminutes : t.offset.seconds % 60 = 0) {zone : List Char} (hzone : IsZone t.offset zone) :
    instantOfText? (t.clockText.toList ++ zone) = some t.carried := by
  have hnano := t.nano_lt
  have hbounds := h.bounds
  obtain ⟨-, hmonth, hday⟩ := CivilDate.number?_ofNumber t.localDayNumber
  have hyear : (CivilDate.yearOf t.localDayNumber).natAbs < 10000 := by
    obtain ⟨hfirst, hlast⟩ := h
    omega
  have hcast : ((CivilDate.yearOf t.localDayNumber).natAbs : Int)
      = CivilDate.yearOf t.localDayNumber := Int.natAbs_of_nonneg h.1
  have hhour : (t.localSecond % 86400).toNat / 3600 < 100 := by omega
  have hminute : (t.localSecond % 86400).toNat / 60 % 60 < 100 := by omega
  have hsecond : (t.localSecond % 86400).toNat % 60 + t.nano / 1000000000 < 100 := by omega
  have hparts := instantOfParts?_eq hminutes
  rw [Instant.localDay?, Day.ofNumber?, dif_pos (by omega), Option.map_some] at hparts
  rw [instantOfText?, toList_clockText, toList_text_inFourDigits h]
  simp only [Option.bind_eq_bind, Option.bind_some, readDateTimeSeparator, readChar, if_true,
    readNumber_padLeft (by decide : 4 ≤ 4) (by decide) hyear,
    readNumber_padLeft (by decide : 2 ≤ 2) (by decide) hmonth,
    readNumber_padLeft (by decide : 2 ≤ 2) (by decide) hday,
    readNumber_padLeft (by decide : 2 ≤ 2) (by decide) hhour,
    readNumber_padLeft (by decide : 2 ≤ 2) (by decide) hminute,
    readNumber_padLeft (by decide : 2 ≤ 2) (by decide) hsecond,
    readFraction_fractionText (Nat.mod_lt t.nano (by decide : 0 < 1000000000)) hzone.stops hzone.point,
    hzone.read, hcast]
  exact hparts

theorem instantOfText?_text {t : Instant} (h : CivilDate.InFourDigits t.localDayNumber)
    (hminutes : t.offset.seconds % 60 = 0) : instantOfText? t.text.toList = some t.carried := by
  rw [Instant.text, String.toList_append]
  exact instantOfText?_clockText h hminutes (isZone_text hminutes)

theorem instantOfText?_zuluText {t : Instant} (h : CivilDate.InFourDigits t.localDayNumber)
    (hminutes : t.offset.seconds % 60 = 0) : instantOfText? t.zuluText.toList = some t.carried := by
  rw [toList_zuluText]
  exact instantOfText?_clockText h hminutes (isZone_zoneText hminutes)

theorem unblank_padLeft (width n : Nat) : Unblank (padLeft width n).toList := fun c hc =>
  not_isBlank_of_isDigit (CivilDate.isDigits_padLeft width n c hc)

theorem unblank_dateText (date : CivilDate) : Unblank date.text.toList := by
  have hsign : Unblank (if date.year < 0 then ['-'] else if 9999 < date.year then ['+'] else []) := by
    split
    · decide
    · split <;> decide
  simp only [CivilDate.text, String.toList_append, unblank_append, toList_yearText, hsign,
    unblank_padLeft, true_and, and_true]
  decide

theorem unblank_fractionText (nano : Nat) : Unblank (Instant.fractionText nano).toList := by
  have hplaces : ∀ width n, Unblank ("." ++ padLeft width n).toList := by
    intro width n
    simp only [String.toList_append, unblank_append, unblank_padLeft, and_true]
    decide
  rw [Instant.fractionText]
  split
  · decide
  · split
    · exact hplaces _ _
    · split <;> exact hplaces _ _

theorem unblank_clockText (t : Instant) : Unblank t.clockText.toList := by
  simp only [Instant.clockText, String.toList_append, unblank_append, unblank_dateText,
    unblank_padLeft, unblank_fractionText, true_and, and_true]
  decide

theorem unblank_offsetText (offset : Offset) : Unblank offset.text.toList := by
  have hsign : Unblank (if offset.seconds < 0 then "-" else "+").toList := by split <;> decide
  simp only [Offset.text, String.toList_append, unblank_append, hsign, unblank_padLeft, true_and,
    and_true]
  decide

theorem unblank_text (t : Instant) : Unblank t.text.toList := by
  rw [Instant.text, String.toList_append, unblank_append]
  exact ⟨unblank_clockText t, unblank_offsetText t.offset⟩

theorem unblank_zuluText (t : Instant) : Unblank t.zuluText.toList := by
  rw [toList_zuluText, unblank_append, zoneText]
  refine ⟨unblank_clockText t, ?_⟩
  split
  · decide
  · exact unblank_offsetText t.offset

end Calendar
end ReportFilters
