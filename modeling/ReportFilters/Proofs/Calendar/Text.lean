import ReportFilters.Proofs.Calendar.Civil
import ReportFilters.Proofs.Calendar.Midnight
import ReportFilters.Proofs.Number.Digits

/-! Dates and instants as text. A day is read as it was written. An instant is, unless its offset has
seconds of its own, which are not written, its day is beyond the calendar, or it is in a leap second
within a minute, which is written as the second after it. -/

namespace ReportFilters

namespace Instant

/-- A leap second of the instant is at the end of a minute. -/
def IsRegular (t : Instant) : Prop := 1000000000 ≤ t.nano → t.second % 60 = 59

instance : DecidablePred IsRegular := fun t =>
  inferInstanceAs (Decidable (1000000000 ≤ t.nano → t.second % 60 = 59))

/-- The instant that is written like this one. -/
def carried (t : Instant) : Instant :=
  if h : 1000000000 ≤ t.nano ∧ t.second % 60 ≠ 59 then
    { t with
      second := t.second + 1
      nano := t.nano - 1000000000
      first_le := Int.le_add_one t.first_le
      lt_end := by have hend := t.lt_end; omega
      nano_lt := Nat.sub_lt_of_lt t.nano_lt }
  else t

theorem carried_of_isRegular {t : Instant} (h : t.IsRegular) : t.carried = t :=
  dif_neg fun ⟨hleap, hwithin⟩ => hwithin (h hleap)

theorem carried_cases (t : Instant) : t.IsRegular ∧ t.carried = t ∨
    t.second % 60 ≠ 59 ∧ t.carried.second = t.second + 1 ∧
      t.carried.nano + 1000000000 = t.nano := by
  by_cases h : t.IsRegular
  · exact .inl ⟨h, carried_of_isRegular h⟩
  · have hleap := Classical.not_imp.mp h
    rw [carried, dif_pos hleap]
    exact .inr ⟨hleap.2, rfl, Nat.sub_add_cancel hleap.1⟩

theorem isRegular_carried (t : Instant) : t.carried.IsRegular := by
  have hnano := t.nano_lt
  rcases t.carried_cases with ⟨h, hsame⟩ | ⟨-, -, hless⟩
  · rwa [hsame]
  · exact fun hleap => absurd hleap (by omega)

theorem offset_carried (t : Instant) : t.carried.offset = t.offset := by
  unfold carried
  split <;> rfl

end Instant

namespace Calendar

open CivilDate (padLeft)
open Numeral (isDigit digitsValue IsDigits)
open Text (isBlank trimStart)

theorem not_isBlank_of_isDigit {c : Char} (h : isDigit c = true) : isBlank c = false := by
  have hdigits : ['0', '1', '2', '3', '4', '5', '6', '7', '8', '9'].all (!isBlank ·) = true := by decide
  simpa using List.all_eq_true.mp hdigits c (Numeral.mem_of_isDigit h)

theorem trimStart_cons {c : Char} (h : isBlank c = false) (rest : List Char) :
    trimStart (c :: rest) = c :: rest := by
  rw [trimStart, List.dropWhile_cons_of_neg (by simp [h])]

theorem head_padLeft (width n : Nat) (rest : List Char) :
    ∃ c more, (padLeft width n).toList ++ rest = c :: more ∧ isDigit c = true := by
  obtain ⟨c, more, h⟩ := List.exists_cons_of_length_pos (CivilDate.length_padLeft_pos width n)
  have hdigits := CivilDate.isDigits_padLeft width n
  rw [h] at hdigits ⊢
  exact ⟨c, more ++ rest, rfl, hdigits c (List.mem_cons_self ..)⟩

theorem trimStart_padLeft (width n : Nat) (rest : List Char) :
    trimStart ((padLeft width n).toList ++ rest) = (padLeft width n).toList ++ rest := by
  obtain ⟨c, more, h, hc⟩ := head_padLeft width n rest
  rw [h, trimStart_cons (not_isBlank_of_isDigit hc)]

theorem stops_isDigit_cons {c : Char} (h : isDigit c = false) (rest : List Char) :
    Stops isDigit (c :: rest) := by
  intro d hd
  cases hd
  exact h

theorem toList_yearText (year : Int) : (CivilDate.yearText year).toList
    = (if year < 0 then ['-'] else if 9999 < year then ['+'] else []) ++ (padLeft 4 year.natAbs).toList := by
  rw [CivilDate.yearText, String.toList_append]
  split
  · rfl
  · split <;> rfl

theorem readNumber_padLeft_dash (n : Nat) (rest : List Char) :
    readNumber 1 ((padLeft 4 n).toList ++ '-' :: rest).length ((padLeft 4 n).toList ++ '-' :: rest)
      = some (n, '-' :: rest) := by
  rw [readNumber_of_stops (CivilDate.isDigits_padLeft 4 n) (CivilDate.length_padLeft_pos 4 n) (by simp)
    (stops_isDigit_cons (by decide) rest), CivilDate.digitsValue_padLeft]

theorem readYear_yearText (year : Int) (rest : List Char) :
    readYear (trimStart ((CivilDate.yearText year).toList ++ '-' :: rest)) = some (year, '-' :: rest) := by
  rw [toList_yearText, List.append_assoc]
  by_cases hneg : year < 0
  · rw [if_pos hneg, List.singleton_append, trimStart_cons (by decide), readYear,
      readNumber_padLeft_dash, Option.map_some]
    simp only [show -(year.natAbs : Int) = year by omega]
  · rw [if_neg hneg]
    by_cases hlate : 9999 < year
    · rw [if_pos hlate, List.singleton_append, trimStart_cons (by decide), readYear,
        readNumber_padLeft_dash, Option.map_some]
      simp only [show (year.natAbs : Int) = year by omega]
    · rw [if_neg hlate, List.nil_append, trimStart_padLeft]
      have hread := @readNumber_padLeft 1 4 year.natAbs (by decide) (by decide) (by omega) ('-' :: rest)
      obtain ⟨c, more, h, hc⟩ := head_padLeft 4 year.natAbs ('-' :: rest)
      rw [h] at hread ⊢
      have hminus : c ≠ '-' := by
        rintro rfl
        exact absurd hc (by decide)
      have hplus : c ≠ '+' := by
        rintro rfl
        exact absurd hc (by decide)
      rw [readYear, hread, Option.map_some]
      · simp only [show (year.natAbs : Int) = year by omega]
      · exact fun _ heq => hminus (List.cons.inj heq).1
      · exact fun _ heq => hplus (List.cons.inj heq).1

theorem readDate_text (loose : Bool) {date : CivilDate} (hmonth : date.month < 100) (hday : date.day < 100)
    (rest : List Char) : readDate loose (date.text.toList ++ rest) = some (date, rest) := by
  have htext : date.text.toList ++ rest = (CivilDate.yearText date.year).toList
      ++ '-' :: ((padLeft 2 date.month).toList ++ '-' :: ((padLeft 2 date.day).toList ++ rest)) := by
    simp [CivilDate.text, String.toList_append]
  have hdash : ∀ more : List Char, trimStart ('-' :: more) = '-' :: more := trimStart_cons (by decide)
  have hroom : ∀ more : List Char,
      (if loose then trimStart ('-' :: more) else '-' :: more) = '-' :: more := by
    intro more
    rw [hdash, ite_self]
  rw [readDate, htext, readYear_yearText]
  simp only [Option.bind_eq_bind, Option.bind_some, hroom, readChar, if_true, trimStart_padLeft,
    readNumber_padLeft (by decide : 1 ≤ 2) (by decide) hmonth,
    readNumber_padLeft (by decide : 1 ≤ 2) (by decide) hday]
  rfl

theorem readDate_text_ofNumber (loose : Bool) (number : Int) (rest : List Char) :
    readDate loose ((CivilDate.ofNumber number).text.toList ++ rest)
      = some (CivilDate.ofNumber number, rest) := by
  obtain ⟨-, hmonth, hday⟩ := CivilDate.number?_ofNumber number
  exact readDate_text loose hmonth hday rest

theorem dayOfText?_text (day : Day) : dayOfText? day.text.toList = some day := by
  have hread := readDate_text_ofNumber false day.number []
  rw [List.append_nil] at hread
  rw [dayOfText?, Day.text, Day.civil, hread, Option.bind_eq_bind, Option.bind_some]
  exact (Day.ofCivil?_ofNumber day.number).trans day.ofNumber?_number

theorem looseDayOfText?_text (day : Day) : looseDayOfText? day.text.toList = some day := by
  have hread := readDate_text_ofNumber true day.number []
  rw [List.append_nil] at hread
  rw [looseDayOfText?, Day.text, Day.civil, hread, Option.bind_eq_bind, Option.bind_some]
  exact (Day.ofCivil?_ofNumber day.number).trans day.ofNumber?_number

theorem looseInstantOfText?_dayText (day : Day) : looseInstantOfText? day.text.toList = none := by
  have hread := readDate_text_ofNumber true day.number []
  rw [List.append_nil] at hread
  rw [looseInstantOfText?, Day.text, Day.civil, hread]
  rfl

theorem readFraction_places {width n : Nat} (hpos : 0 < width) (hmost : width ≤ 9) (h : n < 10 ^ width)
    {rest : List Char} (hrest : Stops isDigit rest) {nano : Nat} (hnano : n * 10 ^ (9 - width) = nano) :
    readFraction (("." ++ padLeft width n).toList ++ rest) = some (nano, rest) := by
  have hlength := CivilDate.length_padLeft hpos h
  have hread := @readNumber_of_stops 1 9 _ rest (CivilDate.isDigits_padLeft width n) (by omega)
    (by omega) hrest
  rw [CivilDate.digitsValue_padLeft] at hread
  rw [String.toList_append, show ".".toList = ['.'] from rfl, List.append_assoc, List.singleton_append,
    readFraction, hread, ← hnano]
  simp only [Option.bind_eq_bind, Option.bind_some, List.length_append, hlength, Nat.add_sub_cancel,
    hrest.dropWhile_eq]
  rfl

theorem readFraction_fractionText {nano : Nat} (h : nano < 1000000000) {rest : List Char}
    (hrest : Stops isDigit rest) (hpoint : ∀ more, rest ≠ '.' :: more) :
    readFraction ((Instant.fractionText nano).toList ++ rest) = some (nano, rest) := by
  rw [Instant.fractionText]
  split
  next hzero =>
    rw [hzero]
    exact readFraction.eq_2 rest hpoint
  next =>
    split
    next => exact readFraction_places (by decide) (by decide) (by omega) hrest (by omega)
    next =>
      split
      next => exact readFraction_places (by decide) (by decide) (by omega) hrest (by omega)
      next => exact readFraction_places (by decide) (by decide) (by omega) hrest (by omega)

theorem looseSeparator_colon (width n : Nat) (rest : List Char) :
    looseSeparator (':' :: ((padLeft width n).toList ++ rest)) = some ((padLeft width n).toList ++ rest) := by
  obtain ⟨c, more, h, hc⟩ := head_padLeft width n rest
  have hstops : Stops (fun c => decide (c = ':') || isBlank c) (c :: more) := by
    intro d hd
    cases hd
    rw [Bool.or_eq_false_iff]
    refine ⟨decide_eq_false ?_, not_isBlank_of_isDigit hc⟩
    rintro rfl
    exact absurd hc (by decide)
  rw [looseSeparator, h, List.dropWhile_cons_of_pos (by decide), hstops.dropWhile_eq]

def zoneText (offset : Offset) : String := if offset.seconds = 0 then "Z" else offset.text

theorem exists_zoneText (offset : Offset) :
    ∃ c more, (zoneText offset).toList = c :: more ∧ (c = 'Z' ∨ c = '+' ∨ c = '-') := by
  rw [zoneText]
  split
  · exact ⟨'Z', [], rfl, .inl rfl⟩
  · rw [Offset.text, String.append_assoc, String.append_assoc, String.toList_append]
    split
    · exact ⟨'-', _, rfl, .inr (.inr rfl)⟩
    · exact ⟨'+', _, rfl, .inr (.inl rfl)⟩

theorem toList_offsetText (offset : Offset) (rest : List Char) : offset.text.toList ++ rest
    = (if offset.seconds < 0 then '-' else '+')
      :: ((padLeft 2 ((offset.seconds.natAbs + 30) / 60 / 60)).toList ++
        ':' :: ((padLeft 2 ((offset.seconds.natAbs + 30) / 60 % 60)).toList ++ rest)) := by
  simp only [Offset.text, String.toList_append]
  split <;> simp

theorem readOffsetSign_sign (negative : Prop) [Decidable negative] (rest : List Char) :
    readOffsetSign ((if negative then '-' else '+') :: rest) = some (decide negative, rest) := by
  by_cases hneg : negative
  · rw [if_pos hneg, decide_eq_true hneg]
    rfl
  · rw [if_neg hneg, decide_eq_false hneg]
    rfl

section
variable {separator : List Char → Option (List Char)} (hcolon : ∀ width n rest,
  separator (':' :: ((padLeft width n).toList ++ rest)) = some ((padLeft width n).toList ++ rest))
include hcolon

theorem readOffsetSeconds_text {offset : Offset} (h : offset.seconds % 60 = 0) :
    readOffsetSeconds separator offset.text.toList = some (offset.seconds, []) := by
  have hwithin := offset.within
  have htext := toList_offsetText offset []
  have hhours : (offset.seconds.natAbs + 30) / 60 / 60 < 100 := by omega
  have hminutes : (offset.seconds.natAbs + 30) / 60 % 60 < 100 := by omega
  rw [List.append_nil] at htext
  rw [htext, readOffsetSeconds, readOffsetSign_sign]
  simp only [Option.bind_eq_bind, Option.bind_some,
    readNumber_padLeft (by decide : 2 ≤ 2) (by decide) hhours, hcolon,
    readNumber_padLeft (by decide : 2 ≤ 2) (by decide) hminutes]
  rw [if_pos (by omega), Option.some_inj, Prod.mk.injEq]
  refine ⟨?_, rfl⟩
  by_cases hneg : offset.seconds < 0
  · rw [if_pos (decide_eq_true hneg)]
    omega
  · rw [decide_eq_false hneg, if_neg Bool.false_ne_true]
    omega

theorem readOffset_text {offset : Offset} (h : offset.seconds % 60 = 0) :
    readOffset separator offset.text.toList = some (offset, []) := by
  have hzulu : ∀ c : Char, c ≠ '-' → c ≠ '+' → ∀ more, offset.text.toList ≠ c :: more := by
    intro c hminus hplus more heq
    rw [← List.append_nil offset.text.toList, toList_offsetText] at heq
    have hsign := (List.cons.inj heq).1
    split at hsign
    · exact hminus hsign.symm
    · exact hplus hsign.symm
  rw [readOffset, readOffsetSeconds_text hcolon h]
  · simp only [Option.bind_eq_bind, Option.bind_some, Offset.ofSeconds?, dif_pos offset.within]
    rfl
  · exact hzulu 'Z' (by decide) (by decide)
  · exact hzulu 'z' (by decide) (by decide)

theorem readOffset_zoneText {offset : Offset} (h : offset.seconds % 60 = 0) :
    readOffset separator (zoneText offset).toList = some (offset, []) := by
  rw [zoneText]
  split
  next hzero =>
    have hsame : offset = Offset.utc := by
      obtain ⟨seconds, within⟩ := offset
      cases hzero
      rfl
    rw [hsame]
    rfl
  next => exact readOffset_text hcolon h

end

theorem readLooseOffset_zoneText {offset : Offset} (h : offset.seconds % 60 = 0) :
    readLooseOffset (zoneText offset).toList = some (offset, []) := by
  have hutc : ¬((zoneText offset).toList.take 3).map Char.toUpper = ['U', 'T', 'C'] := by
    obtain ⟨c, more, htext, hc⟩ := exists_zoneText offset
    rw [htext, List.take_succ_cons, List.map_cons]
    intro heq
    rcases hc with rfl | rfl | rfl <;> exact absurd (List.cons.inj heq).1 (by decide)
  rw [readLooseOffset, if_neg hutc, readOffset_zoneText looseSeparator_colon h]

theorem ofLocal?_eq {t : Instant} {dayNumber : Int} {secondOfDay : Nat}
    (h : dayNumber * 86400 + secondOfDay - t.offset.seconds = t.second) :
    Instant.ofLocal? dayNumber secondOfDay t.nano t.offset = some t := by
  rw [Instant.ofLocal?]
  simp only [h]
  rw [dif_pos ⟨t.first_le, t.lt_end, t.nano_lt⟩]

theorem instantOfParts?_eq {t : Instant} (h : t.offset.seconds % 60 = 0) :
    instantOfParts? (CivilDate.ofNumber t.localDayNumber) ((t.localSecond % 86400).toNat / 3600)
        ((t.localSecond % 86400).toNat / 60 % 60)
        ((t.localSecond % 86400).toNat % 60 + t.nano / 1000000000) (t.nano % 1000000000) t.offset
      = t.localDay?.map fun _ => t.carried := by
  have hnano := t.nano_lt
  have hoffset := t.offset_carried
  have hlocal : t.localSecond = t.second + t.offset.seconds := rfl
  have hday : t.localDayNumber = t.localSecond / 86400 := rfl
  generalize hsecond : (t.localSecond % 86400).toNat = secondOfDay
  rw [instantOfParts?, Day.ofCivil?_ofNumber, Instant.localDay?]
  cases hnumber : Day.ofNumber? t.localDayNumber with
  | none => rfl
  | some day =>
    have hsame := Day.number_of_ofNumber? hnumber
    simp only [Option.bind_eq_bind, Option.bind_some, Option.map_some]
    rw [if_neg (by omega)]
    rcases t.carried_cases with ⟨hregular, hcarried⟩ | ⟨hwithin, hnext, hless⟩
    · rw [hcarried]
      rw [Instant.IsRegular] at hregular
      split
      next h60 =>
        rw [show t.nano % 1000000000 + 1000000000 = t.nano by omega]
        exact ofLocal?_eq (by omega)
      next hless =>
        rw [show t.nano % 1000000000 = t.nano by omega]
        exact ofLocal?_eq (by omega)
    · -- within a minute the leap second is not second 60 on the clock
      rw [if_neg (by omega), show t.nano % 1000000000 = t.carried.nano by omega, ← hoffset]
      exact ofLocal?_eq (by rw [hoffset]; omega)

section
variable {t : Instant} (h : t.offset.seconds % 60 = 0)
include h

theorem localSecond_carried : t.carried = t ∨ t.localSecond % 60 ≠ 59 ∧
    t.carried.localSecond = t.localSecond + 1 ∧ t.carried.nano + 1000000000 = t.nano := by
  rcases t.carried_cases with ⟨-, hsame⟩ | ⟨hwithin, hnext, hless⟩
  · exact .inl hsame
  · rw [Instant.localSecond, Instant.localSecond, t.offset_carried, hnext]
    exact .inr ⟨by omega, by omega, hless⟩

theorem localDayNumber_carried : t.carried.localDayNumber = t.localDayNumber := by
  rcases localSecond_carried h with hsame | ⟨hwithin, hnext, -⟩
  · rw [hsame]
  · rw [Instant.localDayNumber, Instant.localDayNumber, hnext]
    omega

theorem clockText_carried : t.carried.clockText = t.clockText := by
  rcases localSecond_carried h with hsame | ⟨hwithin, hnext, hless⟩
  · rw [hsame]
  · have hnano := t.nano_lt
    have hsecond : (t.carried.localSecond % 86400).toNat = (t.localSecond % 86400).toNat + 1 := by
      omega
    have hwithinDay : (t.localSecond % 86400).toNat % 60 ≠ 59 := by omega
    rw [Instant.clockText, Instant.clockText, localDayNumber_carried h, hsecond]
    generalize (t.localSecond % 86400).toNat = secondOfDay at hwithinDay
    simp only [show (secondOfDay + 1) / 3600 = secondOfDay / 3600 by omega,
      show (secondOfDay + 1) / 60 = secondOfDay / 60 by omega,
      show (secondOfDay + 1) % 60 + t.carried.nano / 1000000000
        = secondOfDay % 60 + t.nano / 1000000000 by omega,
      show t.carried.nano % 1000000000 = t.nano % 1000000000 by omega]

end

theorem toList_clockText (t : Instant) (rest : List Char) : t.clockText.toList ++ rest
    = (CivilDate.ofNumber t.localDayNumber).text.toList ++
      'T' :: ((padLeft 2 ((t.localSecond % 86400).toNat / 3600)).toList ++
      ':' :: ((padLeft 2 ((t.localSecond % 86400).toNat / 60 % 60)).toList ++
      ':' :: ((padLeft 2 ((t.localSecond % 86400).toNat % 60 + t.nano / 1000000000)).toList ++
        ((Instant.fractionText (t.nano % 1000000000)).toList ++ rest)))) := by
  simp [Instant.clockText, String.toList_append]

theorem toList_zuluText (t : Instant) :
    t.zuluText.toList = t.clockText.toList ++ (zoneText t.offset).toList := by
  rw [Instant.zuluText, String.toList_append]
  rfl

theorem looseInstantOfText?_zuluText {t : Instant} (h : t.offset.seconds % 60 = 0) :
    looseInstantOfText? t.zuluText.toList = t.localDay?.map fun _ => t.carried := by
  have hnano := t.nano_lt
  obtain ⟨c, more, hzone, hc⟩ := exists_zoneText t.offset
  have hstops : Stops isDigit (zoneText t.offset).toList := by
    rw [hzone]
    rcases hc with rfl | rfl | rfl <;> exact stops_isDigit_cons (by decide) _
  have hpoint : ∀ rest, (zoneText t.offset).toList ≠ '.' :: rest := by
    intro rest heq
    rw [hzone] at heq
    rcases hc with rfl | rfl | rfl <;> exact absurd (List.cons.inj heq).1 (by decide)
  have htrim : trimStart (zoneText t.offset).toList = (zoneText t.offset).toList := by
    rw [hzone]
    rcases hc with rfl | rfl | rfl <;> exact trimStart_cons (by decide) _
  have hcolon : ∀ more : List Char, trimStart (':' :: more) = ':' :: more := trimStart_cons (by decide)
  have hhour : (t.localSecond % 86400).toNat / 3600 < 100 := by omega
  have hminute : (t.localSecond % 86400).toNat / 60 % 60 < 100 := by omega
  have hsecond : (t.localSecond % 86400).toNat % 60 + t.nano / 1000000000 < 100 := by omega
  rw [looseInstantOfText?, toList_zuluText, toList_clockText, readDate_text_ofNumber]
  simp only [Option.bind_eq_bind, Option.bind_some, readDateTimeSeparator, trimStart_padLeft, hcolon,
    readChar, if_true, readNumber_padLeft (by decide : 1 ≤ 2) (by decide) hhour,
    readNumber_padLeft (by decide : 1 ≤ 2) (by decide) hminute,
    readNumber_padLeft (by decide : 1 ≤ 2) (by decide) hsecond,
    readFraction_fractionText (Nat.mod_lt t.nano (by decide : 0 < 1000000000)) hstops hpoint, htrim,
    readLooseOffset_zoneText h, instantOfParts?_eq h]
  exact if_pos rfl

theorem looseDayOfText?_zuluText (t : Instant) : looseDayOfText? t.zuluText.toList = none := by
  rw [looseDayOfText?, toList_zuluText, toList_clockText, readDate_text_ofNumber]
  simp only [Option.bind_eq_bind, Option.bind_some]
  rw [trimStart_cons (by decide), if_neg (List.cons_ne_nil _ _)]

section
variable {separator : List Char → Option (List Char)} {text rest : List Char}

theorem minutes_of_readOffsetSeconds {seconds : Int}
    (h : readOffsetSeconds separator text = some (seconds, rest)) : seconds % 60 = 0 := by
  simp only [readOffsetSeconds, Option.bind_eq_bind, Option.bind_eq_some_iff] at h
  obtain ⟨_, _, ⟨hours, _⟩, _, _, _, ⟨minutes, _⟩, _, h⟩ := h
  split at h
  · cases h
    split <;> omega
  · cases h

theorem minutes_of_readOffset {offset : Offset} (h : readOffset separator text = some (offset, rest)) :
    offset.seconds % 60 = 0 := by
  rw [readOffset.eq_def] at h
  split at h
  · cases h
    rfl
  · cases h
    rfl
  · simp only [Option.bind_eq_bind, Option.bind_eq_some_iff] at h
    obtain ⟨⟨seconds, _⟩, hseconds, found, hfound, h⟩ := h
    cases h
    rw [Offset.ofSeconds?] at hfound
    split at hfound
    · cases hfound
      exact minutes_of_readOffsetSeconds hseconds
    · cases hfound

theorem nano_lt_of_readFraction {nano : Nat} (h : readFraction text = some (nano, rest)) :
    nano < 1000000000 := by
  rw [readFraction.eq_def] at h
  split at h
  next places =>
    obtain ⟨⟨n, after⟩, hread, h⟩ := Option.bind_eq_some_iff.mp h
    cases h
    obtain ⟨-, hread⟩ := Option.ite_none_left_eq_some.mp hread
    generalize hdigits : (places.take 9).takeWhile isDigit = digits at hread
    cases hread
    have hnine : digits.length ≤ 9 ∧ digits.length ≤ places.length := by
      have hlength := (List.takeWhile_prefix isDigit (l := places.take 9)).length_le
      rw [hdigits, List.length_take] at hlength
      omega
    have hvalue : digitsValue digits < 10 ^ digits.length :=
      Numeral.digitsValue_lt fun c hc => List.mem_takeWhile_imp (hdigits ▸ hc)
    rw [List.length_drop, Nat.sub_sub_self hnine.2]
    calc digitsValue digits * 10 ^ (9 - digits.length)
        < 10 ^ digits.length * 10 ^ (9 - digits.length) :=
          Nat.mul_lt_mul_of_pos_right hvalue (Nat.pow_pos (by decide))
      _ = 10 ^ 9 := by rw [← Nat.pow_add, Nat.add_sub_cancel' hnine.1]
  next =>
    cases h
    decide

theorem of_ofLocal? {dayNumber : Int} {secondOfDay nano : Nat} {offset : Offset} {t : Instant}
    (h : Instant.ofLocal? dayNumber secondOfDay nano offset = some t) :
    t.offset = offset ∧ t.localSecond = dayNumber * 86400 + secondOfDay ∧ t.nano = nano := by
  rw [Instant.ofLocal?] at h
  split at h
  · cases h
    exact ⟨rfl, Int.sub_add_cancel _ _, rfl⟩
  · cases h

theorem of_instantOfParts? {date : CivilDate} {hour minute second nano : Nat} {offset : Offset}
    {t : Instant} (hminutes : offset.seconds % 60 = 0) (hnano : nano < 1000000000)
    (h : instantOfParts? date hour minute second nano offset = some t) :
    t.offset = offset ∧ t.localDay? = Day.ofCivil? date ∧ t.IsRegular := by
  obtain ⟨day, hday, h⟩ := Option.bind_eq_some_iff.mp h
  have hlocal : t.localDayNumber = day.number → t.localDay? = Day.ofCivil? date := by
    intro hnumber
    rw [Instant.localDay?, hnumber, day.ofNumber?_number, hday]
  simp only [Instant.localDayNumber] at hlocal
  split at h
  · cases h
  · split at h
    next =>
      obtain ⟨rfl, hsecond, hsame⟩ := of_ofLocal? h
      refine ⟨rfl, hlocal (by omega), fun _ => ?_⟩
      rw [Instant.localSecond] at hsecond
      omega
    next =>
      obtain ⟨rfl, hsecond, hsame⟩ := of_ofLocal? h
      exact ⟨rfl, hlocal (by omega), fun hleap => absurd hleap (by omega)⟩

/-- An instant that is read has an offset of whole minutes, is on a day of the calendar there, and in no
leap second but one at the end of a minute. -/
theorem of_looseInstantOfText? {t : Instant} (h : looseInstantOfText? text = some t) :
    t.offset.seconds % 60 = 0 ∧ t.localDay?.isSome ∧ t.IsRegular := by
  simp only [looseInstantOfText?, Option.bind_eq_bind, Option.bind_eq_some_iff] at h
  obtain ⟨_, _, _, _, _, _, _, _, _, _, _, _, _, _, ⟨nano, _⟩, hfraction, ⟨offset, _⟩, hoffset, h⟩ := h
  obtain ⟨-, h⟩ := Option.ite_none_right_eq_some.mp h
  have hminutes : offset.seconds % 60 = 0 := by
    rw [readLooseOffset] at hoffset
    split at hoffset
    · cases hoffset
      rfl
    · exact minutes_of_readOffset hoffset
  obtain ⟨hsame, hday, hregular⟩ := of_instantOfParts? hminutes (nano_lt_of_readFraction hfraction) h
  refine ⟨hsame ▸ hminutes, ?_, hregular⟩
  obtain ⟨day, hdate, _⟩ := Option.bind_eq_some_iff.mp h
  rw [hday, hdate]
  rfl

end

end Calendar
end ReportFilters
