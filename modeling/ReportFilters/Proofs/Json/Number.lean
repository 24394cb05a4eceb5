import Mathlib.Data.Int.Init
import ReportFilters.Proofs.Json.Tree
import ReportFilters.Proofs.Number.Digits

/-! JSON numbers. Integers are read as they were written. Any other number is read by the digits of
its text and their place, of which the text keeps an exact account. -/

namespace ReportFilters.Json

open Numeral (isDigit digitsValue IsDigits)

def signText (negative : Bool) : List Char := if negative then ['-'] else []

theorem EndsValue.stops {rest : List Char} (h : EndsValue rest) : Stops isDigit rest := by
  intro c hc
  rcases h c hc with rfl | rfl | rfl <;> rfl

theorem EndsValue.readPlaces_eq {rest : List Char} (h : EndsValue rest) :
    readPlaces rest = some ([], rest) := by
  cases rest with
  | nil => rfl
  | cons c more => rcases h c rfl with rfl | rfl | rfl <;> rfl

theorem EndsValue.readExponent_eq {rest : List Char} (h : EndsValue rest) :
    readExponent rest = some (none, rest) := by
  cases rest with
  | nil => rfl
  | cons c more => rcases h c rfl with rfl | rfl | rfl <;> rfl

structure IsWhole (whole : List Char) : Prop where
  digits : IsDigits whole
  nonempty : whole ≠ []
  zero : whole.head? = some '0' → whole.length = 1

theorem isWhole_toDigits (n : Nat) : IsWhole (Nat.toDigits 10 n) := by
  refine ⟨Numeral.isDigits_toDigits n, Nat.toDigits_ne_nil, ?_⟩
  intro hzero
  by_cases hn : n = 0
  · rw [hn]
    rfl
  · exact absurd hzero (Numeral.head_toDigits_ne_zero hn)

theorem readNumber_signed {whole afterWhole places afterPlaces rest : List Char} {exponent : Option Int}
    (hwhole : IsWhole whole) (hstops : Stops isDigit afterWhole)
    (hplaces : readPlaces afterWhole = some (places, afterPlaces))
    (hexponent : readExponent afterPlaces = some (exponent, rest)) (negative : Bool) :
    readNumber (signText negative ++ (whole ++ afterWhole)) = some
      (if places = [] ∧ exponent = none then integerOfDigits negative whole
        else .real (realOfDigits negative whole places (exponent.getD 0)), rest) := by
  have hminus : ∀ more, whole ++ afterWhole ≠ '-' :: more := by
    obtain ⟨c, more, rfl⟩ := List.exists_cons_of_ne_nil hwhole.nonempty
    rintro _ heq
    cases heq
    exact absurd (hwhole.digits _ (List.mem_cons_self ..)) (by decide)
  have hzero : ¬(whole = [] ∨ whole.head? = some '0' ∧ whole.length ≠ 1) := by
    rintro (hnil | ⟨hhead, hlength⟩)
    · exact hwhole.nonempty hnil
    · exact hlength (hwhole.zero hhead)
  -- the sign decides which equation of the reader applies, and nothing after that
  rcases negative with _ | _
  case' false =>
    rw [signText, if_neg Bool.false_ne_true, List.nil_append, readNumber.eq_2 _ hminus]
  case' true =>
    rw [signText, if_pos rfl, List.singleton_append, readNumber]
  all_goals
    simp only [hstops.takeWhile_append hwhole.digits, hstops.dropWhile_append hwhole.digits,
      if_neg hzero, hplaces, hexponent, Option.bind_eq_bind, Option.bind_some]
    split <;> rfl

theorem signed_natAbs (i : Int) :
    (if decide (i < 0) = true then -(i.natAbs : Int) else i.natAbs) = i := by
  by_cases h : i < 0
  · rw [if_pos (decide_eq_true h)]
    omega
  · rw [if_neg (by simpa using h)]
    omega

theorem integerOfDigits_toInt (i : Int64) :
    integerOfDigits (decide (i.toInt < 0)) (Nat.toDigits 10 i.toInt.natAbs) = .int i := by
  rw [integerOfDigits, Numeral.digitsValue_toDigits]
  simp only [signed_natAbs, Numeral.inInt64_toInt]
  rw [if_pos, Int64.ofInt_toInt]
  rw [Bool.true_and, Bool.not_eq_true', Bool.and_eq_false_iff]
  by_cases hneg : i.toInt < 0
  · exact .inr (decide_eq_false (by omega))
  · exact .inl (decide_eq_false hneg)

theorem toList_toString_int (i : Int) :
    (toString i).toList = signText (decide (i < 0)) ++ Nat.toDigits 10 i.natAbs := by
  rw [Int.toString_eq_repr, Int.repr_eq_if]
  by_cases hneg : i < 0
  · rw [if_neg (by omega), decide_eq_true hneg, Nat.repr_eq_ofList_toDigits, String.toList_append,
      show (-i).toNat = i.natAbs by omega]
    exact congrArg ('-' :: ·) String.toList_ofList
  · rw [if_pos (by omega), decide_eq_false hneg, Nat.repr_eq_ofList_toDigits, String.toList_ofList,
      show i.toNat = i.natAbs by omega]
    rfl

theorem readValue_number {negative : Bool} {whole : List Char} (hwhole : IsWhole whole) (fuel : Nat)
    (rest : List Char) :
    readValue (fuel + 1) (signText negative ++ (whole ++ rest))
      = (readNumber (signText negative ++ (whole ++ rest))).map fun (n, rest) => (.number n, rest) := by
  cases negative with
  | true => rfl
  | false =>
    obtain ⟨c, more, rfl⟩ := List.exists_cons_of_ne_nil hwhole.nonempty
    have hc := Numeral.mem_of_isDigit (hwhole.digits c (List.mem_cons_self ..))
    simp only [List.mem_cons, List.not_mem_nil, or_false] at hc
    rcases hc with rfl | rfl | rfl | rfl | rfl | rfl | rfl | rfl | rfl | rfl <;> rfl

theorem reads_int (i : Int64) : Reads (toString i.toInt) (.number (.int i)) := by
  intro fuel rest hfuel hrest
  obtain ⟨fuel, rfl⟩ := Nat.exists_eq_succ_of_ne_zero (Nat.ne_zero_of_lt hfuel)
  have hwhole := isWhole_toDigits i.toInt.natAbs
  rw [toList_toString_int, List.append_assoc, readValue_number hwhole,
    readNumber_signed hwhole hrest.stops hrest.readPlaces_eq hrest.readExponent_eq, if_pos ⟨rfl, rfl⟩,
    integerOfDigits_toInt]
  rfl

end ReportFilters.Json
