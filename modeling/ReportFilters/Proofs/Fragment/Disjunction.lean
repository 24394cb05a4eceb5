import ReportFilters.Proofs.Condition.Scan
import ReportFilters.Proofs.Number.Digits

/-! Where the scan for a disjunction finds one: at two letters outside quotes and parentheses that
border on no word. In a numbered fragment a marker may have become a mark with a number, which does
belong to a word. A disjunction right behind such a marker is no longer found. -/

namespace ReportFilters.Fragment
open Condition (depthAt startsOr hasOr_cons hasOr_quoted)

def readChar (state : Option Char × Nat) (c : Char) : Option Char × Nat :=
  (quoteAfter state.1 c, if state.1 = none then depthAt state.2 c else state.2)

/-- After this much of the text, outside quotes and parentheses, it goes on with the letters of a
disjunction that border on no word. -/
def OrAt (text front : List Char) : Prop :=
  ∃ rest, text = front ++ rest ∧ front.foldl readChar (none, 0) = (none, 0) ∧
    beginsWord front.getLast? = true ∧ startsOr rest = true

def hasOrAfter (begins : Option Char → Bool) (state : Option Char × Nat) (before : Option Char) :
    List Char → Bool
  | [] => false
  | c :: rest =>
    (state = (none, 0) && begins before && startsOr (c :: rest))
      || hasOrAfter begins (readChar state c) (some c) rest

theorem hasOr_eq_hasOrAfter (inside : Option Char) (depth : Nat) (before : Option Char)
    (text : List Char) :
    hasOr inside depth before text = hasOrAfter beginsWord (inside, depth) before text := by
  induction text generalizing inside depth before with
  | nil => rfl
  | cons c rest ih =>
    rw [hasOrAfter, readChar, ← ih]
    cases inside with
    | none => rw [hasOr_cons]; simp
    | some q => rw [hasOr_quoted]; simp [quoteAfter]

theorem hasOrAfter_iff (begins : Option Char → Bool) (state : Option Char × Nat)
    (before : Option Char) (text : List Char) :
    hasOrAfter begins state before text = true ↔ ∃ front rest, text = front ++ rest ∧
      front.foldl readChar state = (none, 0) ∧ begins (front.getLast?.or before) = true ∧
      startsOr rest = true := by
  induction text generalizing state before with
  | nil =>
    refine ⟨fun h => (nomatch h), ?_⟩
    rintro ⟨front, rest, htext, _, _, hstarts⟩
    obtain ⟨rfl, rfl⟩ := List.append_eq_nil_iff.mp htext.symm
    cases hstarts
  | cons c text ih =>
    have hlast : ∀ front : List Char, (c :: front).getLast?.or before = front.getLast?.or (some c) := by
      intro front
      cases h : front.getLast? <;> simp [List.getLast?_cons, h]
    rw [hasOrAfter, Bool.or_eq_true, ih]
    constructor
    · rintro (hhere | ⟨front, rest, rfl, hstate, hbegins, hstarts⟩)
      · simp only [Bool.and_eq_true, decide_eq_true_eq] at hhere
        exact ⟨[], c :: text, rfl, hhere.1.1, hhere.1.2, hhere.2⟩
      · exact ⟨c :: front, rest, rfl, hstate, (hlast front).symm ▸ hbegins, hstarts⟩
    · rintro ⟨front, rest, htext, hstate, hbegins, hstarts⟩
      cases front with
      | nil =>
        cases htext
        exact .inl (by simp_all)
      | cons d front =>
        cases htext
        exact .inr ⟨front, rest, rfl, hstate, hlast front ▸ hbegins, hstarts⟩

theorem hasTopLevelOr_iff (text : String) :
    hasTopLevelOr text = true ↔ ∃ front, OrAt text.toList front := by
  rw [hasTopLevelOr, hasOr_eq_hasOrAfter, hasOrAfter_iff]
  simp only [OrAt, Option.or_none]

/-! Numbered fragments. -/

theorem number_question {mark : Nat → String} (hmark : ∀ index, mark index = "?") (next : Nat)
    (inside : Option Char) (text : List Char) : number mark next inside text = text := by
  induction text generalizing next inside with
  | nil => rfl
  | cons c rest ih =>
    rw [number]
    split
    next h => simp [hmark, h.2, ih]
    next => rw [ih]

theorem dollar_toList (n : Nat) :
    (Dialect.postgresql.placeholder n).toList = '$' :: Nat.toDigits 10 n := by
  simp [Dialect.placeholder]

theorem endsWord_number (next : Nat) (text : List Char) :
    endsWord (number Dialect.postgresql.placeholder next none text) = endsWord text := by
  cases text with
  | nil => rfl
  | cons c rest =>
    rw [number]
    split
    next h =>
      rw [dollar_toList, h.2]
      rfl
    next => rfl

theorem quoteAfter_of_toLower {c l : Char} (h : c.toLower = l) (hl : l = 'o' ∨ l = 'r') :
    quoteAfter none c = none ∧ c ≠ '?' := by
  have hquote : isQuote c = false := by
    rw [Bool.eq_false_iff]
    intro hquote
    simp only [isQuote, Bool.or_eq_true, decide_eq_true_eq] at hquote
    rcases hquote with (rfl | rfl) | rfl <;> rcases hl with rfl | rfl <;> exact absurd h (by decide)
  refine ⟨by simp [quoteAfter, hquote], ?_⟩
  rintro rfl
  rcases hl with rfl | rfl <;> exact absurd h (by decide)

theorem startsOr_cons_of_ne {c : Char} (h : c.toLower ≠ 'o') (rest : List Char) :
    startsOr (c :: rest) = false := by
  cases rest with
  | nil => rfl
  | cons d more => simp [startsOr, h]

theorem startsOr_number (next : Nat) (text : List Char) :
    startsOr (number Dialect.postgresql.placeholder next none text) = startsOr text := by
  cases text with
  | nil => rfl
  | cons c rest =>
    by_cases hmark : c = '?'
    · subst hmark
      rw [number, if_pos ⟨rfl, rfl⟩, dollar_toList, List.cons_append,
        startsOr_cons_of_ne (by decide), startsOr_cons_of_ne (by decide)]
    rw [number, if_neg fun h => hmark h.2]
    by_cases hother : c.toLower ≠ 'o'
    · rw [startsOr_cons_of_ne hother, startsOr_cons_of_ne hother]
    have ho : c.toLower = 'o' := not_not.mp hother
    rw [(quoteAfter_of_toLower ho (.inl rfl)).1]
    cases rest with
    | nil => rfl
    | cons d more =>
      by_cases hr : d.toLower = 'r'
      · obtain ⟨hinside, hmark⟩ := quoteAfter_of_toLower hr (.inr rfl)
        rw [number, if_neg fun h => hmark h.2, hinside, startsOr, startsOr, endsWord_number]
      · rw [number]
        split
        next h =>
          rw [dollar_toList, h.2]
          simp [startsOr]
        next => simp [startsOr, hr]

def isIdle (c : Char) : Bool := c.toLower ≠ 'o' && !isQuote c && c ≠ '(' && c ≠ ')'

theorem hasOrAfter_idle {c : Char} (h : isIdle c = true) (begins : Option Char → Bool) (depth : Nat)
    (before : Option Char) (rest : List Char) : hasOrAfter begins (none, depth) before (c :: rest)
      = hasOrAfter begins (none, depth) (some c) rest := by
  simp only [isIdle, Bool.and_eq_true, decide_eq_true_eq, Bool.not_eq_true'] at h
  obtain ⟨⟨⟨ho, hquote⟩, hopen⟩, hclose⟩ := h
  rw [hasOrAfter, startsOr_cons_of_ne ho, Bool.and_false, Bool.false_or]
  simp [readChar, quoteAfter, hquote, depthAt, hopen, hclose]

theorem isIdle_of_isDigit {c : Char} (h : Numeral.isDigit c = true) :
    isIdle c = true ∧ isWordChar c = true := by
  have hdigits : ['0', '1', '2', '3', '4', '5', '6', '7', '8', '9'].all
    (fun c => isIdle c && isWordChar c) = true := by decide
  simpa using List.all_eq_true.mp hdigits c (Numeral.mem_of_isDigit h)

theorem exists_hasOrAfter_digits {digits : List Char} (hdigits : Numeral.IsDigits digits)
    (hsome : digits ≠ []) (begins : Option Char → Bool) (depth : Nat) (before : Option Char)
    (rest : List Char) : ∃ last, isWordChar last = true ∧
      hasOrAfter begins (none, depth) before (digits ++ rest)
        = hasOrAfter begins (none, depth) (some last) rest := by
  induction digits generalizing before with
  | nil => exact absurd rfl hsome
  | cons c more ih =>
    obtain ⟨hidle, hword⟩ := isIdle_of_isDigit (hdigits c (List.mem_cons_self ..))
    rw [List.cons_append, hasOrAfter_idle hidle]
    cases more with
    | nil => exact ⟨c, hword, rfl⟩
    | cons d more => exact ih (fun e he => hdigits e (List.mem_cons_of_mem _ he)) (List.cons_ne_nil d more) _

def beginsApart (before : Option Char) : Bool := beginsWord before && before ≠ some '?'

theorem isQuote_of_quoteAfter {inside : Option Char} (h : ∀ q ∈ inside, isQuote q = true) {c : Char} :
    ∀ q ∈ quoteAfter inside c, isQuote q = true := by
  intro q hq
  cases inside with
  | none =>
    rw [quoteAfter] at hq
    split at hq
    next hc => exact Option.some.inj hq ▸ hc
    next => cases hq
  | some p =>
    rw [quoteAfter] at hq
    split at hq
    next => cases hq
    next => exact h q hq

theorem inside_of_quoteAfter {inside : Option Char} (h : ∀ q ∈ inside, isQuote q = true) {c : Char}
    (hnone : quoteAfter inside c = none) (hc : isQuote c = false) : inside = none := by
  cases inside with
  | none => rfl
  | some q =>
    rw [quoteAfter] at hnone
    split at hnone
    next heq =>
      rw [heq, h q rfl] at hc
      cases hc
    next => cases hnone

theorem hasOrAfter_number {inside : Option Char} (hinside : ∀ q ∈ inside, isQuote q = true) (next depth : Nat)
    {before before' : Option Char} (hbefore : inside = none → beginsWord before' = beginsApart before)
    (text : List Char) :
    hasOrAfter beginsWord (inside, depth) before' (number Dialect.postgresql.placeholder next inside text)
      = hasOrAfter beginsApart (inside, depth) before text := by
  induction text generalizing inside next depth before before' with
  | nil => rfl
  | cons c rest ih =>
    by_cases hmark : inside = none ∧ c = '?'
    · obtain ⟨rfl, rfl⟩ := hmark
      have hne : Nat.toDigits 10 next ≠ [] := Nat.toDigits_ne_nil
      obtain ⟨last, hword, hdigits⟩ := exists_hasOrAfter_digits (Numeral.isDigits_toDigits next) hne
        beginsWord depth (some '$') (number Dialect.postgresql.placeholder (next + 1) none rest)
      rw [number, if_pos ⟨rfl, rfl⟩, dollar_toList, List.cons_append, hasOrAfter_idle (by decide),
        hasOrAfter_idle (by decide), hdigits]
      refine ih (by simp) _ _ fun _ => ?_
      simp [beginsWord, beginsApart, hword]
    · have hinside' : ∀ q ∈ quoteAfter inside c, isQuote q = true := isQuote_of_quoteAfter hinside
      have hbefore' : quoteAfter inside c = none → beginsWord (some c) = beginsApart (some c) := by
        intro hnone
        have hne : c ≠ '?' := by
          rintro rfl
          exact hmark ⟨inside_of_quoteAfter hinside hnone rfl, rfl⟩
        simp [beginsApart, hne]
      have hrest := ih hinside' next (readChar (inside, depth) c).2 hbefore'
      rw [number, if_neg hmark, hasOrAfter, hasOrAfter]
      refine congr (congrArg _ ?_) hrest
      cases inside with
      | none =>
        have hstarts := startsOr_number next (c :: rest)
        rw [number, if_neg hmark] at hstarts
        rw [hstarts, hbefore rfl]
      | some q => rfl

/-- In a numbered fragment just the disjunctions behind a marker are missed. -/
theorem hasTopLevelOr_number_iff (next : Nat) (text : String) :
    hasTopLevelOr (String.ofList (number Dialect.postgresql.placeholder next none text.toList)) = true ↔
      ∃ front, OrAt text.toList front ∧ front.getLast? ≠ some '?' := by
  have hscan : hasOrAfter beginsWord (none, 0) none
      (number Dialect.postgresql.placeholder next none text.toList)
      = hasOrAfter beginsApart (none, 0) none text.toList :=
    hasOrAfter_number (by simp) next 0 (fun _ => rfl) text.toList
  rw [hasTopLevelOr, String.toList_ofList, hasOr_eq_hasOrAfter, hscan, hasOrAfter_iff]
  refine exists_congr fun front => ?_
  simp only [OrAt, Option.or_none, beginsApart, Bool.and_eq_true, decide_eq_true_eq]
  constructor
  · rintro ⟨rest, htext, hstate, ⟨hbegins, hapart⟩, hstarts⟩
    exact ⟨⟨rest, htext, hstate, hbegins, hstarts⟩, hapart⟩
  · rintro ⟨⟨rest, htext, hstate, hbegins, hstarts⟩, hapart⟩
    exact ⟨rest, htext, hstate, ⟨hbegins, hapart⟩, hstarts⟩

end ReportFilters.Fragment
