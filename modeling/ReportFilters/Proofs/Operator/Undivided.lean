import ReportFilters.Proofs.Fragment.Disjunction
import ReportFilters.Proofs.Operator.Clauses

/-! The scan for a disjunction over conditions of built-in operators. A quoted column takes it past
whatever the column is called, back to where it came in: words of a name are never the word it looks for,
which is reserved, and in quotes it looks for nothing. The one disjunction that there is stands in
parentheses. -/

namespace ReportFilters

namespace Fragment
open Condition (depthAt startsOr hasOr_cons hasOr_quoted isWordChar_of_isQuote)

def isPlain (c : Char) : Bool := !isQuote c && c ≠ '(' && c ≠ ')'

def isPassed (depth : Nat) (c : Char) : Bool := isPlain c && (depth ≠ 0 || c.toLower ≠ 'o')

theorem hasOr_plain {depth : Nat} {c : Char} (h : isPlain c = true) {before : Option Char}
    {rest : List Char}
    (hhere : (decide (depth = 0) && beginsWord before && startsOr (c :: rest)) = false) :
    hasOr none depth before (c :: rest) = hasOr none depth (some c) rest := by
  simp only [isPlain, Bool.and_eq_true, Bool.not_eq_true', decide_eq_true_eq] at h
  obtain ⟨⟨hquote, hopen⟩, hclose⟩ := h
  rw [hasOr_cons, hhere, Bool.false_or, quoteAfter, hquote, depthAt, if_neg hopen, if_neg hclose]
  rfl

theorem hasOr_passed {depth : Nat} {c : Char} (h : isPassed depth c = true) (before : Option Char)
    (rest : List Char) : hasOr none depth before (c :: rest) = hasOr none depth (some c) rest := by
  rw [isPassed, Bool.and_eq_true, Bool.or_eq_true, decide_eq_true_eq, decide_eq_true_eq] at h
  refine hasOr_plain h.1 ?_
  rcases h.2 with hdepth | ho
  · simp [hdepth]
  · rw [startsOr_cons_of_ne ho, Bool.and_false]

theorem hasOr_passed_append {depth : Nat} {text : List Char}
    (h : text.all (isPassed depth) = true) (before : Option Char) (rest : List Char) :
    hasOr none depth before (text ++ rest) = hasOr none depth (text.getLast?.or before) rest := by
  induction text generalizing before with
  | nil => rfl
  | cons c more ih =>
    rw [List.all_cons, Bool.and_eq_true] at h
    rw [List.cons_append, hasOr_passed h.1, ih h.2, List.getLast?_cons]
    cases more.getLast? <;> rfl

theorem hasOr_open (depth : Nat) (before : Option Char) (rest : List Char) :
    hasOr none depth before ('(' :: rest) = hasOr none (depth + 1) (some '(') rest := by
  rw [hasOr_cons, startsOr_cons_of_ne (by decide), Bool.and_false, Bool.false_or]
  rfl

theorem hasOr_close (depth : Nat) (before : Option Char) (rest : List Char) :
    hasOr none (depth + 1) before (')' :: rest) = hasOr none depth (some ')') rest := by
  rw [hasOr_cons, startsOr_cons_of_ne (by decide), Bool.and_false, Bool.false_or]
  rfl

theorem hasOr_group {depth : Nat} {inner : List Char} (h : inner.all (isPassed (depth + 1)) = true)
    (before : Option Char) (rest : List Char) :
    hasOr none depth before ('(' :: (inner ++ ')' :: rest)) = hasOr none depth (some ')') rest := by
  rw [hasOr_open, hasOr_passed_append h, hasOr_close]

/-! Names. What stands between two of them, or behind the last, is a dot or a blank. -/

theorem isWordChar_of_isIdentifierChar {c : Char} (h : isIdentifierChar c = true) :
    isWordChar c = true := by
  rw [isIdentifierChar] at h
  rw [isWordChar, h, Bool.true_or]

theorem isPlain_of_isIdentifierChar {c : Char} (h : isIdentifierChar c = true) : isPlain c = true := by
  have hparen : c ≠ '(' ∧ c ≠ ')' := by
    constructor <;> rintro rfl <;> exact absurd h (by decide)
  simp [isPlain, Dialect.isQuote_of_isIdentifierChar h, hparen]

section
variable {sep : Char} (hsep : sep ∈ ['.', ' '])
include hsep

theorem isPassed_separator (depth : Nat) : isPassed depth sep = true := by
  simp only [List.mem_cons, List.not_mem_nil, or_false] at hsep
  rcases hsep with rfl | rfl <;> simp [isPassed, isPlain, isQuote]

theorem hasOr_within (depth : Nat) {word : List Char} (h : ∀ e ∈ word, isIdentifierChar e = true)
    {first : Char} (hfirst : isWordChar first = true) (rest : List Char) :
    hasOr none depth (some first) (word ++ sep :: rest) = hasOr none depth (some sep) rest := by
  induction word generalizing first with
  | nil => exact hasOr_passed (isPassed_separator hsep depth) _ _
  | cons c more ih =>
    have hc := h c (List.mem_cons_self ..)
    have hbegins : beginsWord (some first) = false := by simp [beginsWord, hfirst]
    rw [List.cons_append, hasOr_plain (isPlain_of_isIdentifierChar hc) (by simp [hbegins])]
    exact ih (fun e he => h e (List.mem_cons_of_mem _ he)) (isWordChar_of_isIdentifierChar hc)

theorem startsOr_word {word : List Char} (h : ∀ e ∈ word, isIdentifierChar e = true)
    (hother : word.map Char.toLower ≠ ['o', 'r']) (rest : List Char) :
    startsOr (word ++ sep :: rest) = false := by
  have hlower : sep.toLower ≠ 'o' ∧ sep.toLower ≠ 'r' := by
    simp only [List.mem_cons, List.not_mem_nil, or_false] at hsep
    rcases hsep with rfl | rfl <;> decide
  match word with
  | [] => exact startsOr_cons_of_ne hlower.1 _
  | [c] => simp [startsOr, hlower.2]
  | [c, d] =>
    have hletters : ¬(c.toLower = 'o' ∧ d.toLower = 'r') := by simpa using hother
    simp only [List.cons_append, List.nil_append, startsOr, Bool.and_eq_false_iff,
      decide_eq_false_iff_not]
    exact .inl (not_and_or.mp hletters)
  | c :: d :: e :: more =>
    have he : isWordChar e = true := isWordChar_of_isIdentifierChar (h e (by simp))
    simp [startsOr, endsWord, he]

theorem hasOr_word (depth : Nat) {word : List Char} (h : ∀ e ∈ word, isIdentifierChar e = true)
    (hother : word.map Char.toLower ≠ ['o', 'r']) (before : Option Char) (rest : List Char) :
    hasOr none depth before (word ++ sep :: rest) = hasOr none depth (some sep) rest := by
  have hstarts := startsOr_word hsep h hother rest
  cases word with
  | nil => exact hasOr_passed (isPassed_separator hsep depth) _ _
  | cons c more =>
    have hc := h c (List.mem_cons_self ..)
    rw [List.cons_append] at hstarts ⊢
    rw [hasOr_plain (isPlain_of_isIdentifierChar hc) (by rw [hstarts, Bool.and_false])]
    exact hasOr_within hsep depth (fun e he => h e (List.mem_cons_of_mem _ he))
      (isWordChar_of_isIdentifierChar hc) rest

end

theorem hasOr_quote {q : Char} (hq : isQuote q = true) (depth : Nat) (before : Option Char)
    (rest : List Char) : hasOr none depth before (q :: rest) = hasOr (some q) depth (some q) rest := by
  have ho : q.toLower ≠ 'o' ∧ q ≠ '(' ∧ q ≠ ')' := by
    simp only [isQuote, Bool.or_eq_true, decide_eq_true_eq] at hq
    rcases hq with (rfl | rfl) | rfl <;> decide
  rw [hasOr_cons, startsOr_cons_of_ne ho.1, Bool.and_false, Bool.false_or, quoteAfter, hq, depthAt,
    if_neg ho.2.1, if_neg ho.2.2]
  rfl

theorem hasOr_doubled {q : Char} (hq : isQuote q = true) (depth : Nat) (before : Option Char)
    (name rest : List Char) :
    hasOr (some q) depth before (Dialect.doubled q name ++ q :: rest)
      = hasOr none depth (some q) rest := by
  induction name generalizing before with
  | nil =>
    rw [Dialect.doubled, List.flatMap_nil, List.nil_append, hasOr_quoted, if_pos rfl]
  | cons c name ih =>
    rw [Dialect.doubled_cons]
    by_cases hc : c = q
    · -- the first of the two closes the text, the second opens it again
      rw [if_pos hc, List.append_assoc, List.cons_append, hasOr_quoted, if_pos rfl,
        List.singleton_append, hasOr_quote hq]
      exact ih _
    · rw [if_neg hc, List.append_assoc, List.singleton_append, hasOr_quoted, if_neg hc]
      exact ih _

end Fragment

namespace Dialect
open Fragment

theorem map_toLower_ne_or {name : String} (h : needsQuoting name = false) :
    name.toList.map Char.toLower ≠ ['o', 'r'] := by
  intro heq
  have hnot := not_reserved h
  rw [heq] at hnot
  exact hnot (by decide)

theorem hasOr_quoteIdentifier (d : Dialect) (name : String) {sep : Char} (hsep : sep ∈ ['.', ' '])
    (depth : Nat) (before : Option Char) (rest : List Char) :
    hasOr none depth before ((d.quoteIdentifier name).toList ++ sep :: rest)
      = hasOr none depth (some sep) rest := by
  rw [quoteIdentifier]
  cases h : needsQuoting name with
  | true =>
    have htext : (d.quoteAlways name).toList ++ sep :: rest
        = d.quoteChar :: (doubled d.quoteChar name.toList ++ d.quoteChar :: sep :: rest) := by
      simp [quoteAlways, doubled]
    rw [if_pos rfl, htext, hasOr_quote d.isQuote_quoteChar, hasOr_doubled d.isQuote_quoteChar,
      hasOr_passed (isPassed_separator hsep depth)]
  | false =>
    obtain ⟨c, more, hchars, _, hall⟩ := exists_word h
    rw [if_neg Bool.false_ne_true]
    exact hasOr_word hsep depth (hchars ▸ hall) (map_toLower_ne_or h) before rest

theorem hasOr_quoteQualified (d : Dialect) (name : String) (depth : Nat) (before : Option Char)
    (rest : List Char) :
    hasOr none depth before ((d.quoteQualified name).toList ++ ' ' :: rest)
      = hasOr none depth (some ' ') rest := by
  -- behind each part but the last comes a dot, behind the last a blank
  have hparts : ∀ parts : List (List Char), parts ≠ [] → ∀ before,
      hasOr none depth before (['.'].intercalate
        (parts.map fun part => (d.quoteIdentifier (String.ofList part)).toList) ++ ' ' :: rest)
      = hasOr none depth (some ' ') rest := by
    intro parts hne
    induction parts with
    | nil => exact absurd rfl hne
    | cons part more ih =>
      intro before
      cases more with
      | nil => simpa using d.hasOr_quoteIdentifier _ (by simp) depth before rest
      | cons next more =>
        rw [List.map_cons, List.map_cons, List.intercalate_cons_cons, List.append_assoc,
          List.append_assoc, List.singleton_append, hasOr_quoteIdentifier d _ (by simp)]
        exact ih (List.cons_ne_nil next more) _
  rw [toList_quoteQualified]
  exact hparts _ (List.splitOn_ne_nil _ _) before

end Dialect

namespace Builtin
open Fragment

theorem isPassed_markers (depth count : Nat) :
    (markers count).toList.all (isPassed (depth + 1)) = true := by
  induction count with
  | zero => rfl
  | succ n ih =>
    cases n with
    | zero => rfl
    | succ n =>
      rw [markers, List.replicate_succ, List.replicate_succ, String.intercalate_cons_cons,
        ← List.replicate_succ, String.toList_append, String.toList_append, List.all_append,
        List.all_append, ← markers, ih]
      rfl

section
variable (d : Dialect) (name : String)

theorem hasTopLevelOr_test {test : String} (hblank : test.toList.head? = some ' ')
    (hnone : hasOr none 0 (some ' ') test.toList.tail = false) :
    hasTopLevelOr (d.quoteQualified name ++ test) = false := by
  obtain ⟨rest, htest⟩ := List.head?_eq_some_iff.mp hblank
  rw [htest, List.tail_cons] at hnone
  rw [hasTopLevelOr, String.toList_append, htest, d.hasOr_quoteQualified, hnone]

theorem hasTopLevelOr_range {lower : String} (hblank : lower.toList.head? = some ' ')
    (hpassed : lower.toList.tail.all (isPassed 0) = true) :
    hasTopLevelOr (d.quoteQualified name ++ lower ++ d.quoteQualified name ++ " < ?") = false := by
  obtain ⟨rest, hlower⟩ := List.head?_eq_some_iff.mp hblank
  rw [hlower, List.tail_cons] at hpassed
  have hupper : " < ?".toList = ' ' :: ['<', ' ', '?'] := rfl
  simp only [hasTopLevelOr, String.toList_append, hlower, hupper, List.append_assoc, List.cons_append]
  rw [d.hasOr_quoteQualified, hasOr_passed_append hpassed, d.hasOr_quoteQualified]
  rfl

theorem hasTopLevelOr_among (count : Nat) :
    hasTopLevelOr (d.quoteQualified name ++ " IN (" ++ markers count ++ ")") = false := by
  have htext : (d.quoteQualified name ++ " IN (" ++ markers count ++ ")").toList
      = (d.quoteQualified name).toList ++ ' ' ::
        ("IN ".toList ++ '(' :: ((markers count).toList ++ ')' :: [])) := by
    simp
  rw [hasTopLevelOr, htext, d.hasOr_quoteQualified, hasOr_passed_append (by decide),
    hasOr_group (isPassed_markers _ count)]
  rfl

theorem hasTopLevelOr_outside (count : Nat) :
    hasTopLevelOr ("(" ++ d.quoteQualified name ++ " IS NULL OR " ++ d.quoteQualified name
      ++ " NOT IN (" ++ markers count ++ "))") = false := by
  have htext : ("(" ++ d.quoteQualified name ++ " IS NULL OR " ++ d.quoteQualified name
        ++ " NOT IN (" ++ markers count ++ "))").toList
      = '(' :: ((d.quoteQualified name).toList ++ ' ' ::
        ("IS NULL OR ".toList ++ ((d.quoteQualified name).toList ++ ' ' ::
          ("NOT IN ".toList ++ '(' :: ((markers count).toList ++ ')' :: ')' :: []))))) := by
    simp
  rw [hasTopLevelOr, htext, hasOr_open, d.hasOr_quoteQualified, hasOr_passed_append (by decide),
    d.hasOr_quoteQualified, hasOr_passed_append (by decide), hasOr_group (isPassed_markers _ count),
    hasOr_close]
  rfl

end

theorem Shape.hasTopLevelOr_eq_false {d : Dialect} {column : String} {p : Predicate}
    (h : Shape (d.quoteQualified column) p) : hasTopLevelOr p.fragment = false := by
  cases h with
  | among values => exact hasTopLevelOr_among d column values.length
  | outside values => exact hasTopLevelOr_outside d column values.length
  | presence test h =>
    have htests : ∀ test ∈ [" IS NULL", " IS NOT NULL"], test.toList.head? = some ' ' ∧
        hasOr none 0 (some ' ') test.toList.tail = false := by decide +kernel
    exact hasTopLevelOr_test d column (htests test h).1 (htests test h).2
  | single test h value =>
    have htests : ∀ test ∈ [" <= ?", " >= ?", " < ?", " > ?", " = ?", " LIKE ? ESCAPE '!'",
        " NOT LIKE ? ESCAPE '!'", " IN (SELECT id FROM issue_statuses WHERE is_closed = ?)"],
        test.toList.head? = some ' ' ∧ hasOr none 0 (some ' ') test.toList.tail = false := by
      decide +kernel
    exact hasTopLevelOr_test d column (htests test h).1 (htests test h).2
  | range lower h start stop =>
    have hlowers : ∀ lower ∈ [" >= ? AND ", " > ? AND "], lower.toList.head? = some ' ' ∧
        lower.toList.tail.all (isPassed 0) = true := by decide +kernel
    exact hasTopLevelOr_range d column (hlowers lower h).1 (hlowers lower h).2

end Builtin
end ReportFilters
