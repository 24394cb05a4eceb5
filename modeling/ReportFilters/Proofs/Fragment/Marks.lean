import Mathlib.Data.List.TakeWhile
import ReportFilters.Sql.Dialect
import ReportFilters.Sql.Fragment

/-! Parameter marks read back from a text. A reader that passes over quoted text finds in a numbered
fragment exactly the marks it was numbered with, as long as the fragment has no dollar sign of its
own outside quotes and no digit right after a marker. -/

namespace ReportFilters.Fragment

/-- The marks outside quotes as they stand: a question mark, or a dollar sign with the digits that
follow it. -/
def marks (inside : Option Char) : List Char → List (List Char)
  | [] => []
  | c :: rest =>
    (if inside = none ∧ c = '?' then [[c]]
      else if inside = none ∧ c = '$' then [c :: rest.takeWhile Char.isDigit]
      else []) ++ marks (quoteAfter inside c) rest

def startsApart : List Char → Bool
  | [] => true
  | c :: _ => !c.isDigit

/-- No mark of its own, and none that the text after it could extend. -/
def isClear (inside : Option Char) : List Char → Bool
  | [] => true
  | c :: rest =>
    (inside ≠ none || (c ≠ '$' && (c ≠ '?' || startsApart rest))) && isClear (quoteAfter inside c) rest

def placeholders (dialect : Dialect) (first count : Nat) : List (List Char) :=
  (List.range' first count).map fun n => (dialect.placeholder n).toList

theorem placeholders_append (d : Dialect) (first m n : Nat) :
    placeholders d first m ++ placeholders d (first + m) n = placeholders d first (m + n) := by
  simp only [placeholders, ← List.map_append, List.range'_append_1]

theorem startsApart_append {a b : List Char} (ha : startsApart a) (hb : startsApart b) :
    startsApart (a ++ b) := by
  cases a with
  | nil => exact hb
  | cons c rest => exact ha

theorem takeWhile_isDigit_append {b : List Char} (hb : startsApart b) (a : List Char) :
    (a ++ b).takeWhile Char.isDigit = a.takeWhile Char.isDigit := by
  induction a with
  | nil =>
    cases b with
    | nil => rfl
    | cons c rest =>
      have hc : c.isDigit = false := by simpa only [startsApart, Bool.not_eq_true'] using hb
      simp only [List.nil_append, List.takeWhile_cons, hc, Bool.false_eq_true, if_false,
        List.takeWhile_nil]
  | cons c rest ih => simp only [List.cons_append, List.takeWhile_cons, ih]

/-! What holds of two texts holds of one after the other, with the quotes the first leaves open. -/

theorem markerCount_append (inside : Option Char) (a b : List Char) :
    markerCount inside (a ++ b) = markerCount inside a + markerCount (a.foldl quoteAfter inside) b := by
  induction a generalizing inside with
  | nil => simp only [List.nil_append, markerCount, List.foldl_nil, Nat.zero_add]
  | cons c rest ih => simp only [List.cons_append, markerCount, ih, List.foldl_cons, Nat.add_assoc]

theorem isClear_append {inside : Option Char} {a b : List Char} (ha : isClear inside a)
    (hb : isClear (a.foldl quoteAfter inside) b) (hs : startsApart b) :
    isClear inside (a ++ b) := by
  induction a generalizing inside with
  | nil => exact hb
  | cons c rest ih =>
    simp only [isClear, Bool.and_eq_true, Bool.or_eq_true] at ha
    obtain ⟨hc, hrest⟩ := ha
    have htail := ih hrest hb
    simp only [List.cons_append, isClear, Bool.and_eq_true, Bool.or_eq_true, htail, and_true]
    exact hc.imp_right fun h => ⟨h.1, h.2.imp_right fun hr => startsApart_append hr hs⟩

theorem marks_append {b : List Char} (hb : startsApart b) (inside : Option Char) (a : List Char) :
    marks inside (a ++ b) = marks inside a ++ marks (a.foldl quoteAfter inside) b := by
  induction a generalizing inside with
  | nil => rfl
  | cons c rest ih =>
    simp only [List.cons_append, marks, ih, takeWhile_isDigit_append hb, List.foldl_cons,
      List.append_assoc]

/-! Numbering. -/

theorem number_of_markerCount_eq_zero {mark : Nat → String} {next : Nat} {inside : Option Char}
    {text : List Char} (h : markerCount inside text = 0) : number mark next inside text = text := by
  induction text generalizing inside with
  | nil => rfl
  | cons c rest ih =>
    by_cases hc : inside = none ∧ c = '?'
    · rw [markerCount, if_pos hc] at h
      omega
    · rw [markerCount, if_neg hc, Nat.zero_add] at h
      rw [number, if_neg hc, ih h]

theorem startsApart_number {d : Dialect} {next : Nat} {inside : Option Char} {text : List Char}
    (h : startsApart text) : startsApart (number d.placeholder next inside text) := by
  cases text with
  | nil => rfl
  | cons c rest =>
    rw [number]
    split
    · cases d <;> simp [Dialect.placeholder, startsApart]
    · exact h

theorem isQuote_of_isDigit {c : Char} (h : c.isDigit) : isQuote c = false := by
  simp only [isQuote, Bool.or_eq_false_iff, decide_eq_false_iff_not]
  refine ⟨⟨?_, ?_⟩, ?_⟩ <;> rintro rfl <;> exact absurd h (by decide)

theorem foldl_quoteAfter_of_plain {text : List Char} (h : ∀ c ∈ text, isQuote c = false) :
    text.foldl quoteAfter none = none := by
  induction text with
  | nil => rfl
  | cons c rest ih =>
    have hc := h c (List.mem_cons_self ..)
    rw [List.foldl_cons, quoteAfter, hc]
    exact ih fun e he => h e (List.mem_cons_of_mem _ he)

theorem foldl_quoteAfter_placeholder (d : Dialect) (n : Nat) :
    (d.placeholder n).toList.foldl quoteAfter none = none := by
  apply foldl_quoteAfter_of_plain
  intro c hc
  cases d with
  | postgresql =>
    simp only [Dialect.placeholder, String.toList_append, List.mem_append, Nat.toString_eq_repr,
      Nat.toList_repr] at hc
    rcases hc with hc | hc
    · rw [List.mem_singleton.mp hc]
      rfl
    · exact isQuote_of_isDigit (Nat.isDigit_of_mem_toDigits (by decide) (by decide) hc)
  | mysql | sqlite =>
    have hmark : c = '?' := by simpa [Dialect.placeholder] using hc
    rw [hmark]
    rfl

theorem foldl_quoteAfter_number (d : Dialect) (next : Nat) (inside : Option Char)
    (text : List Char) :
    (number d.placeholder next inside text).foldl quoteAfter inside
      = text.foldl quoteAfter inside := by
  induction text generalizing next inside with
  | nil => rfl
  | cons c rest ih =>
    by_cases hc : inside = none ∧ c = '?'
    · obtain ⟨rfl, rfl⟩ := hc
      rw [number, if_pos ⟨rfl, rfl⟩, List.foldl_append, foldl_quoteAfter_placeholder, ih]
      rfl
    · rw [number, if_neg hc, List.foldl_cons, List.foldl_cons, ih]

theorem marks_digits {text : List Char} (h : ∀ c ∈ text, c.isDigit) (rest : List Char) :
    marks none (text ++ rest) = marks none rest := by
  induction text with
  | nil => rfl
  | cons c more ih =>
    have hc : c.isDigit := h c (List.mem_cons_self ..)
    have hne : c ≠ '?' ∧ c ≠ '$' := by
      constructor <;> rintro rfl <;> exact absurd hc (by decide)
    rw [List.cons_append, marks, if_neg fun e => hne.1 e.2, if_neg fun e => hne.2 e.2, quoteAfter,
      isQuote_of_isDigit hc]
    exact ih fun e he => h e (List.mem_cons_of_mem _ he)

theorem marks_placeholder (d : Dialect) (n : Nat) {rest : List Char} (h : startsApart rest) :
    marks none ((d.placeholder n).toList ++ rest) = (d.placeholder n).toList :: marks none rest := by
  cases d with
  | postgresql =>
    have hdigits : ∀ c ∈ Nat.toDigits 10 n, c.isDigit := fun c hc =>
      Nat.isDigit_of_mem_toDigits (by decide) (by decide) hc
    have htext : ((Dialect.postgresql).placeholder n).toList = '$' :: Nat.toDigits 10 n := by
      simp [Dialect.placeholder]
    have htake : (Nat.toDigits 10 n ++ rest).takeWhile Char.isDigit = Nat.toDigits 10 n := by
      rw [takeWhile_isDigit_append h, List.takeWhile_eq_self_iff]
      exact hdigits
    rw [htext, List.cons_append, marks, if_neg (by decide), if_pos ⟨rfl, rfl⟩, htake]
    exact congrArg (_ :: ·) (marks_digits hdigits rest)
  | mysql | sqlite => simp [Dialect.placeholder, marks, quoteAfter, isQuote]

theorem marks_number {d : Dialect} {next : Nat} {inside : Option Char} {text : List Char}
    (h : isClear inside text) :
    marks inside (number d.placeholder next inside text)
      = placeholders d next (markerCount inside text) := by
  induction text generalizing next inside with
  | nil => rfl
  | cons c rest ih =>
    simp only [isClear, Bool.and_eq_true] at h
    obtain ⟨hc, hrest⟩ := h
    by_cases hm : inside = none ∧ c = '?'
    · obtain ⟨rfl, rfl⟩ := hm
      have hs : startsApart rest := by simpa using hc
      have hmore : marks none (number d.placeholder (next + 1) none rest)
          = placeholders d (next + 1) (markerCount none rest) := ih hrest
      rw [number, if_pos ⟨rfl, rfl⟩, marks_placeholder d next (startsApart_number hs), hmore,
        markerCount, if_pos ⟨rfl, rfl⟩, Nat.add_comm 1]
      rfl
    · have hd : ¬(inside = none ∧ c = '$') := by
        rintro ⟨rfl, rfl⟩
        simp at hc
      rw [number, if_neg hm, marks, if_neg hm, if_neg hd, ih hrest, markerCount, if_neg hm,
        Nat.zero_add, List.nil_append]

end ReportFilters.Fragment
