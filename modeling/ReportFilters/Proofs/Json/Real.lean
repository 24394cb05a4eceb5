import ReportFilters.Proofs.Json.Number
import ReportFilters.Proofs.Json.Scaling
import ReportFilters.Proofs.Number.Shortest

/-! Double precision numbers in JSON. Their text is a whole part, places and an exponent, which together
are the decimal that was written. The reader keeps as many digits as fit its word; what it makes of them
may differ from the number in the last bit, but is never too large. -/

namespace ReportFilters.Json

open Numeral (isDigit digitsValue IsDigits isDigits_toDigits isDigits_zeros digitsValue_toDigits
  digitsValue_append digitsValue_zeros)

structure Parts (text whole places : List Char) (exponent : Int) : Prop where
  isWhole : IsWhole whole
  short : whole.length ≤ 16
  read : ∀ rest, EndsValue rest → ∃ afterWhole afterPlaces written,
    text ++ rest = whole ++ afterWhole ∧ Stops isDigit afterWhole ∧
      readPlaces afterWhole = some (places, afterPlaces) ∧
      readExponent afterPlaces = some (written, rest) ∧ written.getD 0 = exponent ∧
      ¬(places = [] ∧ written = none)

theorem Parts.readNumber_eq {text whole places : List Char} {exponent : Int}
    (h : Parts text whole places exponent) (negative : Bool) {rest : List Char} (hrest : EndsValue rest) :
    readNumber (signText negative ++ (text ++ rest))
      = some (.real (realOfDigits negative whole places exponent), rest) := by
  obtain ⟨afterWhole, afterPlaces, written, htext, hstops, hplaces, hexponent, rfl, hreal⟩ := h.read rest hrest
  rw [htext, readNumber_signed h.isWhole hstops hplaces hexponent, if_neg hreal]

/-- The parts stand for the decimal: its own digits, or with the zeros up to the first place. -/
def Account (d : Decimal) (whole places : List Char) (exponent : Int) : Prop :=
  digitsValue (whole ++ places) = d.digits ∧ exponent - places.length = d.exponent ∨
    0 ≤ d.exponent ∧ digitsValue (whole ++ places) = d.digits * 10 ^ (d.exponent.toNat + 1) ∧
      exponent = 0 ∧ places.length = 1

theorem readPlaces_point {places rest : List Char} (hplaces : IsDigits places) (hne : places ≠ [])
    (hrest : Stops isDigit rest) : readPlaces ('.' :: (places ++ rest)) = some (places, rest) := by
  rw [readPlaces]
  simp only [hrest.takeWhile_append hplaces, hrest.dropWhile_append hplaces, if_neg hne]

theorem stops_point (rest : List Char) : Stops isDigit ('.' :: rest) := by
  intro c hc
  cases hc
  decide

theorem parts_point {text whole places : List Char} (hwhole : IsWhole whole)
    (hshort : whole.length ≤ 16) (hplaces : IsDigits places) (hne : places ≠ [])
    (htext : text = whole ++ '.' :: places) : Parts text whole places 0 := by
  refine ⟨hwhole, hshort, ?_⟩
  intro rest hrest
  refine ⟨'.' :: (places ++ rest), rest, none, ?_, stops_point _,
    readPlaces_point hplaces hne hrest.stops, hrest.readExponent_eq, rfl, fun h => hne h.1⟩
  rw [htext, List.append_assoc]
  rfl

section
variable {d : Decimal}

theorem toList_positionalText_of_nonneg (he : 0 ≤ d.exponent) : (realStyle.positionalText d).toList
    = (Nat.toDigits 10 d.digits ++ List.replicate d.exponent.toNat '0') ++ ['.', '0'] := by
  unfold DecimalStyle.positionalText
  simp [he, realStyle, String.toList_append]

def padded (d : Decimal) : List Char :=
  List.replicate ((-d.exponent).toNat + 1 - (Nat.toDigits 10 d.digits).length) '0'
    ++ Nat.toDigits 10 d.digits

theorem toList_positionalText_of_neg (he : d.exponent < 0) : (realStyle.positionalText d).toList
    = (padded d).take ((padded d).length - (-d.exponent).toNat)
      ++ '.' :: (padded d).drop ((padded d).length - (-d.exponent).toNat) := by
  unfold DecimalStyle.positionalText
  rw [if_neg (by omega), String.toList_ofList]
  rfl

theorem parts_of_nonneg (he : 0 ≤ d.exponent) (hzero : d.digits = 0 → d = ⟨0, 0⟩)
    (hlead : d.leadingExponent < 16) : ∃ whole places,
      Parts (realStyle.positionalText d).toList whole places 0 ∧ Account d whole places 0 := by
  have hdigits := isWhole_toDigits d.digits
  rw [Decimal.leadingExponent] at hlead
  refine ⟨_, ['0'], parts_point ⟨?_, ?_, ?_⟩ ?_ (by simp [IsDigits, isDigit]) (List.cons_ne_nil _ _)
    (toList_positionalText_of_nonneg he), .inr ⟨he, ?_, rfl, rfl⟩⟩
  · exact hdigits.digits.append (isDigits_zeros _)
  · exact fun hnil => hdigits.nonempty (List.append_eq_nil_iff.mp hnil).1
  · intro hhead
    by_cases hd : d.digits = 0
    · rw [hzero hd]
      rfl
    · have hne := Numeral.head_toDigits_ne_zero hd
      rw [List.head?_append, Option.or_of_isSome (by simp)] at hhead
      exact absurd hhead hne
  · rw [List.length_append, List.length_replicate]
    omega
  · rw [List.append_assoc, digitsValue_append, digitsValue_toDigits,
      show List.replicate d.exponent.toNat '0' ++ ['0'] = List.replicate (d.exponent.toNat + 1) '0' from
        List.replicate_succ'.symm, digitsValue_zeros, List.length_replicate, Nat.add_zero, Nat.mul_comm]

theorem parts_of_neg (he : d.exponent < 0) (hzero : d.digits = 0 → d = ⟨0, 0⟩)
    (hlead : d.leadingExponent < 16) : ∃ whole places,
      Parts (realStyle.positionalText d).toList whole places 0 ∧ Account d whole places 0 := by
  have hdigits := isWhole_toDigits d.digits
  have hpos := List.length_pos_of_ne_nil hdigits.nonempty
  have hne : d.digits ≠ 0 := by
    intro hd
    rw [hzero hd] at he
    exact absurd he (by decide)
  have hpadded : IsDigits (padded d) := (isDigits_zeros _).append hdigits.digits
  have hlength : (padded d).length = max ((-d.exponent).toNat + 1) (Nat.toDigits 10 d.digits).length := by
    rw [padded, List.length_append, List.length_replicate]
    omega
  rw [Decimal.leadingExponent] at hlead
  refine ⟨_, _, parts_point ⟨?_, ?_, ?_⟩ ?_ ?_ ?_ (toList_positionalText_of_neg he), .inl ⟨?_, ?_⟩⟩
  · exact fun c hc => hpadded c (List.mem_of_mem_take hc)
  · intro hnil
    have := congrArg List.length hnil
    simp only [List.length_take, List.length_nil] at this
    omega
  · intro hhead
    rcases Nat.lt_or_ge ((-d.exponent).toNat + 1) (Nat.toDigits 10 d.digits).length with hlong | hshort
    · -- no zeros were put in front, and the first digit is none
      have hown : padded d = Nat.toDigits 10 d.digits := by
        rw [padded, Nat.sub_eq_zero_of_le (by omega)]
        rfl
      rw [List.head?_take, if_neg (by omega), hown] at hhead
      exact absurd hhead (Numeral.head_toDigits_ne_zero hne)
    · rw [List.length_take]
      omega
  · rw [List.length_take]
    omega
  · exact fun c hc => hpadded c (List.mem_of_mem_drop hc)
  · intro hnil
    have := congrArg List.length hnil
    simp only [List.length_drop, List.length_nil] at this
    omega
  · rw [List.take_append_drop, padded, Numeral.digitsValue_zeros_append, digitsValue_toDigits]
  · rw [List.length_drop]
    omega

def exponentText (exponent : Int) : List Char :=
  'e' :: (if exponent < 0 then '-' else '+') :: Nat.toDigits 10 exponent.natAbs

theorem readExponent_exponentText (exponent : Int) {rest : List Char} (hrest : Stops isDigit rest) :
    readExponent (exponentText exponent ++ rest) = some (some exponent, rest) := by
  have hdigits := isWhole_toDigits exponent.natAbs
  have hsign : Numeral.readSign ((if exponent < 0 then '-' else '+')
      :: (Nat.toDigits 10 exponent.natAbs ++ rest))
      = (decide (exponent < 0), Nat.toDigits 10 exponent.natAbs ++ rest) := by
    by_cases hneg : exponent < 0
    · rw [if_pos hneg, decide_eq_true hneg]
      rfl
    · rw [if_neg hneg, decide_eq_false hneg]
      rfl
  rw [exponentText, List.cons_append, List.cons_append, readExponent, if_pos (.inl rfl), hsign]
  simp only [hrest.takeWhile_append hdigits.digits, hrest.dropWhile_append hdigits.digits,
    if_neg hdigits.nonempty, digitsValue_toDigits, signed_natAbs]

theorem toList_scientificText {c : Char} {more : List Char} (h : Nat.toDigits 10 d.digits = c :: more) :
    (realStyle.scientificText d).toList
      = c :: ((if more = [] then [] else '.' :: more) ++ exponentText d.leadingExponent) := by
  have hexponent : (if 0 ≤ d.leadingExponent then "e+" else "e").toList ++ (toString d.leadingExponent).toList
      = exponentText d.leadingExponent := by
    rw [toList_toString_int, exponentText]
    by_cases hneg : d.leadingExponent < 0
    · rw [if_neg (by omega), if_pos hneg, decide_eq_true hneg]
      rfl
    · rw [if_pos (by omega), if_neg hneg, decide_eq_false hneg]
      rfl
  unfold DecimalStyle.scientificText
  simp only [realStyle, and_true, String.toList_append, String.toList_ofList, List.append_assoc, hexponent]
  rw [h]
  cases more <;> rfl

theorem stops_exponentText (exponent : Int) (rest : List Char) :
    Stops isDigit (exponentText exponent ++ rest) := by
  intro c hc
  cases hc
  decide

theorem parts_scientific (d : Decimal) : ∃ whole places,
    Parts (realStyle.scientificText d).toList whole places d.leadingExponent ∧
      Account d whole places d.leadingExponent := by
  have hdigits := isWhole_toDigits d.digits
  obtain ⟨c, more, h⟩ := List.exists_cons_of_ne_nil hdigits.nonempty
  have hall : ∀ digit ∈ c :: more, isDigit digit = true := h ▸ hdigits.digits
  obtain ⟨hc, hmore⟩ := List.forall_mem_cons.mp hall
  have hwhole : IsWhole [c] := ⟨by simpa [IsDigits] using hc, List.cons_ne_nil _ _, fun _ => rfl⟩
  refine ⟨[c], more, ⟨hwhole, by simp, ?_⟩, .inl ⟨?_, ?_⟩⟩
  · intro rest hrest
    have hexponent := readExponent_exponentText d.leadingExponent hrest.stops
    have hstops := stops_exponentText d.leadingExponent rest
    refine ⟨(if more = [] then [] else '.' :: more) ++ (exponentText d.leadingExponent ++ rest),
      exponentText d.leadingExponent ++ rest, _, ?_, ?_, ?_, hexponent, rfl, fun hnone => nomatch hnone.2⟩
    · rw [toList_scientificText h, List.singleton_append, List.cons_append, List.append_assoc]
    · split
      · exact hstops
      · exact stops_point _
    · by_cases hnil : more = []
      · rw [if_pos hnil, hnil]
        rfl
      · rw [if_neg hnil]
        exact readPlaces_point hmore hnil hstops
  · rw [List.singleton_append, ← h, digitsValue_toDigits]
  · rw [Decimal.leadingExponent, h, List.length_cons]
    omega

end

theorem exists_parts {d : Decimal} (hzero : d.digits = 0 → d = ⟨0, 0⟩) : ∃ whole places exponent,
    Parts (if realStyle.isPositional d then realStyle.positionalText d
      else realStyle.scientificText d).toList whole places exponent ∧
    Account d whole places exponent := by
  by_cases hpositional : realStyle.isPositional d
  · rw [if_pos hpositional]
    have hlead : d.leadingExponent < 16 := by
      simp only [DecimalStyle.isPositional, realStyle, Bool.or_eq_true, Bool.and_eq_true,
        decide_eq_true_eq] at hpositional
      rcases hpositional with hdigits | hrange
      · rw [hzero hdigits]
        decide
      · exact hrange.2
    rcases lt_or_ge d.exponent 0 with hneg | hnonneg
    · obtain ⟨whole, places, h⟩ := parts_of_neg hneg hzero hlead
      exact ⟨whole, places, 0, h⟩
    · obtain ⟨whole, places, h⟩ := parts_of_nonneg hnonneg hzero hlead
      exact ⟨whole, places, 0, h⟩
  · rw [if_neg hpositional]
    obtain ⟨whole, places, h⟩ := parts_scientific d
    exact ⟨whole, places, _, h⟩

theorem halfwayToLargest_le_ceiling (n : Nat) : Binary64.halfwayToLargest ≤ ceiling n := by
  rw [ceiling]
  split
  · decide +kernel
  · exact le_rfl

theorem le_ceiling_of_account {d : Decimal} {whole places : List Char} {exponent : Int}
    (haccount : Account d whole places exponent)
    (hd : d.value ≤ Binary64.halfwayToLargest ∨ d = ⟨17976931348623157, 292⟩) {word dropped n : Nat}
    (hlimit : word < wordLimit) (hword : word * 10 ^ dropped ≤ digitsValue (whole ++ places))
    (hdropped : dropped ≤ places.length) (hn : exponent - places.length + dropped = n) :
    word * 10 ^ n ≤ ceiling n := by
  rcases haccount with ⟨hdigits, hexponent⟩ | ⟨_, _, hexponent, hplaces⟩
  · rw [hdigits] at hword
    rw [hexponent] at hn
    rcases hd with hvalue | rfl
    · have hscaled : ((word * 10 ^ n : Nat) : ℚ) ≤ d.value := by
        have hcast : (word * 10 ^ dropped : ℚ) ≤ d.digits := by exact_mod_cast hword
        have hpow : (10 : ℚ) ^ n = 10 ^ dropped * 10 ^ d.exponent := by
          rw [← zpow_natCast, ← hn, zpow_add₀ (by norm_num), zpow_natCast, mul_comm]
        calc ((word * 10 ^ n : Nat) : ℚ) = word * 10 ^ dropped * 10 ^ d.exponent := by
              rw [Nat.cast_mul, Nat.cast_pow, Nat.cast_ofNat, hpow, mul_assoc]
          _ ≤ d.digits * 10 ^ d.exponent := mul_le_mul_of_nonneg_right hcast (zpow_nonneg (by norm_num) _)
      have hle : word * 10 ^ n ≤ Binary64.halfwayToLargest := by exact_mod_cast hscaled.trans hvalue
      exact hle.trans (halfwayToLargest_le_ceiling n)
    · -- of the decimal of the largest number some last digits may be missing
      obtain rfl : n = dropped + 292 := by
        have : (292 : Int) + dropped = n := hn
        omega
      rw [ceiling, if_pos (by omega), pow_add, ← mul_assoc]
      exact Nat.mul_le_mul_right _ hword
  · obtain rfl : n = 0 := by omega
    have hle : wordLimit ≤ ceiling 0 := by decide +kernel
    rw [pow_zero, mul_one]
    exact hlimit.le.trans hle

theorem Parts.reads {body : String} {whole places : List Char} {exponent : Int}
    (h : Parts body.toList whole places exponent) (negative : Bool) :
    Reads ((if negative then "-" else "") ++ body)
      (.number (.real (realOfDigits negative whole places exponent))) := by
  intro fuel rest hfuel hrest
  obtain ⟨fuel, rfl⟩ := Nat.exists_eq_succ_of_ne_zero (Nat.ne_zero_of_lt hfuel)
  have htext : ((if negative then "-" else "") ++ body).toList ++ rest
      = signText negative ++ (body.toList ++ rest) := by
    rw [String.toList_append, List.append_assoc]
    cases negative <;> rfl
  obtain ⟨afterWhole, _, _, hbody, _⟩ := h.read rest hrest
  have hread := h.readNumber_eq negative hrest
  rw [htext, hbody, readValue_number h.isWhole, ← hbody, hread]
  rfl

theorem exists_reads_writeReal (negative : Bool) {units : Nat} (exact : Binary64.Exact units) :
    ∃ x, Reads (writeReal (.finite negative units exact)) (.number (.real (some x))) := by
  have hvalue : (Binary64.shortest .even units).value ≤ Binary64.halfwayToLargest ∨
      Binary64.shortest .even units = ⟨17976931348623157, 292⟩ := by
    by_cases hne : units = Binary64.largest
    · rw [hne]
      exact .inr (by decide +kernel)
    · exact .inl (Binary64.value_shortest_le_halfway .even exact hne)
  obtain ⟨whole, places, exponent, hparts, haccount⟩ :=
    exists_parts fun hdigits => (Binary64.shortest_eq_zero hdigits).2
  obtain ⟨word, dropped, hread, hlimit, hword, hdropped⟩ :=
    @realOfDigits_eq whole places hparts.isWhole.digits hparts.short negative exponent
  have hsome : (realOfDigits negative whole places exponent).isSome := by
    rw [hread]
    exact scaledWord_isSome hlimit
      (fun n hn => le_ceiling_of_account haccount hvalue hlimit hword hdropped hn) negative
  obtain ⟨x, hx⟩ := Option.isSome_iff_exists.mp hsome
  exact ⟨x, hx ▸ hparts.reads negative⟩

end ReportFilters.Json
