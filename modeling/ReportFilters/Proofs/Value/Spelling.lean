import ReportFilters.Proofs.Calendar.Strict
import ReportFilters.Proofs.Json.Number
import ReportFilters.Proofs.Value.Moment

/-! Values spelled out. A whole number, a day or an instant may also be given as its text with blanks around
it, and stands for the same then. -/

namespace ReportFilters

namespace Numeral
open Json (signText)

theorem readSign_signText (negative : Bool) {digits : List Char} (h : IsDigits digits) :
    readSign (signText negative ++ digits) = (negative, digits) := by
  cases negative with
  | true => rfl
  | false =>
    have hminus : ∀ more, digits ≠ '-' :: more := by
      rintro more rfl
      exact absurd (h _ (List.mem_cons_self ..)) (by decide)
    have hplus : ∀ more, digits ≠ '+' :: more := by
      rintro more rfl
      exact absurd (h _ (List.mem_cons_self ..)) (by decide)
    exact readSign.eq_3 digits hminus hplus

theorem readInt_toString (i : Int) : readInt (toString i).toList = some i := by
  have hdigits := isDigits_toDigits i.natAbs
  have hsome : ¬(Nat.toDigits 10 i.natAbs = [] ∨ !(Nat.toDigits 10 i.natAbs).all isDigit) := by
    simp only [Nat.toDigits_ne_nil, false_or, Bool.not_eq_true', Bool.not_eq_false]
    exact List.all_eq_true.mpr hdigits
  rw [Json.toList_toString_int, readInt, readSign_signText _ hdigits]
  dsimp only
  rw [if_neg hsome, digitsValue_toDigits, Json.signed_natAbs]

theorem readInt64_toString (i : Int64) : readInt64 (toString i.toInt).toList = some i := by
  rw [readInt64, readInt_toString, Option.bind_some, if_pos (inInt64_toInt i), Int64.ofInt_toInt]

theorem unblank_toString (i : Int) : Text.Unblank (toString i).toList := by
  have hdigits : Text.Unblank (Nat.toDigits 10 i.natAbs) := fun c hc =>
    Calendar.not_isBlank_of_isDigit (isDigits_toDigits i.natAbs c hc)
  rw [Json.toList_toString_int, Text.unblank_append, signText]
  refine ⟨?_, hdigits⟩
  split <;> decide

end Numeral

namespace Value
open Text (SameButBlanks)

/-- The text is that of the value with any blanks around it. Days and instants are of the years 0 to 9999,
instants in an offset of whole minutes. -/
inductive SpelledAs : Value → String → Prop
  | int {n : Int64} {s : String} (h : SameButBlanks s (toString n.toInt)) : SpelledAs (.int n) s
  | day {d : Day} {s : String} (hyear : CivilDate.InFourDigits d.number) (h : SameButBlanks s d.text) :
    SpelledAs (.day d) s
  | instant {t : Instant} {s : String} (hyear : CivilDate.InFourDigits t.localDayNumber)
    (hminutes : t.offset.seconds % 60 = 0) (h : SameButBlanks s t.text ∨ SameButBlanks s t.zuluText) :
    SpelledAs (.instant t) s

theorem int64?_of_spelledAs {n : Int64} {s : String} (h : SpelledAs (.int n) s) :
    (text s).int64? = some n := by
  cases h with
  | int h =>
    rw [int64?, (Numeral.unblank_toString n.toInt).trimmed_of_sameButBlanks h,
      Numeral.readInt64_toString]

theorem moment?_of_spelledAs_day {d : Day} {s : String} (h : SpelledAs (.day d) s) :
    (text s).moment? = some (.inr d) := by
  cases h with
  | day hyear h =>
    have htrimmed : Text.trimmed s.toList = d.text.toList :=
      (Calendar.unblank_dateText d.civil).trimmed_of_sameButBlanks h
    rw [moment?, htrimmed, Calendar.instantOfText?_dayText hyear, Calendar.dayOfText?_text]
    rfl

theorem moment?_of_spelledAs_instant {t : Instant} {s : String} (h : SpelledAs (.instant t) s) :
    (text s).moment? = some (.inl t.carried) := by
  cases h with
  | instant hyear hminutes h =>
    have hread : Calendar.instantOfText? (Text.trimmed s.toList) = some t.carried := by
      rcases h with h | h
      · rw [(Calendar.unblank_text t).trimmed_of_sameButBlanks h]
        exact Calendar.instantOfText?_text hyear hminutes
      · rw [(Calendar.unblank_zuluText t).trimmed_of_sameButBlanks h]
        exact Calendar.instantOfText?_zuluText hyear hminutes
    rw [moment?, hread]
    rfl

theorem SpelledAs.carried {t : Instant} {s : String} (h : SpelledAs (.instant t) s) :
    SpelledAs (.instant t.carried) s := by
  cases h with
  | instant hyear hminutes h =>
    have hclock := Calendar.clockText_carried hminutes
    have hday := Calendar.localDayNumber_carried hminutes
    refine .instant (hday ▸ hyear) (t.offset_carried ▸ hminutes) ?_
    rw [Instant.text, Instant.zuluText, hclock, t.offset_carried]
    exact h

theorem dayNumber?_of_spelledAs_day {d : Day} {s : String} (h : SpelledAs (.day d) s) (offset : Offset) :
    (text s).dayNumber? offset = some d.number := by
  have hmoment := moment?_of_spelledAs_day h
  cases h with
  | day hyear _ =>
    have hbounds := hyear.bounds
    rcases dayNumber?_of_inr hmoment offset with hread | ⟨-, hnone⟩
    · exact hread
    · exact absurd (offset.hasMidnight_of_inner (by omega) (by omega)) hnone

theorem instant?_eq_of_moment? {v w : Value} (h : v.moment? = w.moment?) (offset : Offset) :
    v.instant? offset = w.instant? offset := by
  have hnone : ∀ u : Value, u.moment? = none → u.instant? offset = none := by
    intro u hu
    by_contra hsome
    obtain ⟨t, ht⟩ := Option.ne_none_iff_exists'.mp hsome
    have hmoment := moment?_of_instant? ht
    rw [hu] at hmoment
    cases hmoment
  cases hv : v.moment? with
  | none => rw [hnone v hv, hnone w (h ▸ hv)]
  | some moment =>
    have hw : w.moment? = some moment := h ▸ hv
    cases moment with
    | inl t => rw [instant?_of_inl hv, instant?_of_inl hw]
    | inr d => rw [instant?_of_inr hv, instant?_of_inr hw]

end Value
end ReportFilters
