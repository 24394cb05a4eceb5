import Mathlib.Data.List.Infix
import ReportFilters.Operator.Builtin

/-! Comparisons of a text with a pattern. In a pattern `%` stands for any text and `_` for any one character,
but a character right after the escape stands for itself. -/

namespace ReportFilters

namespace Like

def begins (first : Char → Bool) (after : List Char → Bool) : List Char → Bool
  | [] => false
  | c :: rest => first c && after rest

/-- Whether what is left of the pattern describes what is left of the text, with the escape right before it
or not. Whatever `%` may stand for is tried. -/
def fits (escape : Char) (escaped : Bool) : List Char → List Char → Bool
  | [], text => !escaped && text.isEmpty
  | c :: pattern, text =>
    if !escaped && c = escape then fits escape true pattern text
    else if !escaped && c = '%' then text.tails.any (fits escape false pattern)
    else begins (fun e => (!escaped && c = '_') || e = c) (fits escape false pattern) text

/-- Behind every escape is a character that would mean something else without. A character behind an escape
is no escape itself. -/
def isWellFormed (escape : Char) (escaped : Bool) : List Char → Bool
  | [] => !escaped
  | c :: pattern =>
    if escaped then
      (c = '%' || c = '_' || c = escape) && isWellFormed escape false pattern
    else isWellFormed escape (c = escape) pattern

section
variable {escape : Char} (pattern text : List Char)

theorem fits_any (h : escape ≠ '%') :
    fits escape false ('%' :: pattern) text ↔
      ∃ front rest, text = front ++ rest ∧ fits escape false pattern rest := by
  rw [fits, if_neg (by simpa using h.symm), if_pos (by simp), List.any_eq_true]
  constructor
  · rintro ⟨rest, hrest, hfits⟩
    obtain ⟨front, rfl⟩ := (List.mem_tails _ _).mp hrest
    exact ⟨front, rest, rfl, hfits⟩
  · rintro ⟨front, rest, rfl, hfits⟩
    exact ⟨rest, (List.mem_tails _ _).mpr (List.suffix_append front rest), hfits⟩

theorem fits_literal {escaped : Bool} {c : Char}
    (h : escaped = true ∨ c ≠ escape ∧ c ≠ '%' ∧ c ≠ '_') :
    fits escape escaped (c :: pattern) text ↔
      ∃ rest, text = c :: rest ∧ fits escape false pattern rest := by
  have hescape : (!escaped && decide (c = escape)) = false := by
    rcases h with rfl | h <;> simp [*]
  have hany : (!escaped && decide (c = '%')) = false := by
    rcases h with rfl | h <;> simp [*]
  have hone : (!escaped && decide (c = '_')) = false := by
    rcases h with rfl | h <;> simp [*]
  simp only [fits, hescape, hany, hone, Bool.false_eq_true, if_false, Bool.false_or]
  cases text with
  | nil => simp [begins]
  | cons e rest =>
    simp only [begins, Bool.and_eq_true, decide_eq_true_eq, List.cons.injEq]
    constructor
    · rintro ⟨rfl, hfits⟩
      exact ⟨rest, ⟨rfl, rfl⟩, hfits⟩
    · rintro ⟨_, ⟨rfl, rfl⟩, hfits⟩
      exact ⟨rfl, hfits⟩

end

theorem fits_nil (escape : Char) (text : List Char) : fits escape false [] text ↔ text = [] := by
  simp [fits]

end Like

structure Likeness where
  isNegated : Bool
  escape : Char
  pattern : String

namespace Likeness

def condition (column : String) (l : Likeness) : Predicate :=
  ⟨column ++ (if l.isNegated then " NOT LIKE ? ESCAPE '" else " LIKE ? ESCAPE '")
      ++ String.singleton l.escape ++ "'",
    [.text l.pattern]⟩

def Holds (l : Likeness) (text : String) : Prop :=
  Like.fits l.escape false l.pattern.toList text.toList = !l.isNegated

theorem condition_inj {column : String} {l m : Likeness}
    (h : l.condition column = m.condition column) : l = m := by
  obtain ⟨negated, escape, pattern⟩ := l
  obtain ⟨negated', escape', pattern'⟩ := m
  obtain ⟨htext, hparams⟩ := Predicate.mk.inj h
  obtain rfl : pattern = pattern' := by simpa using hparams
  have hchars := congrArg String.toList htext
  simp only [String.toList_append, List.append_assoc, List.append_cancel_left_eq] at hchars
  cases negated <;> cases negated' <;> simp at hchars <;> rw [hchars]

end Likeness

def Predicate.SelectsText (p : Predicate) (column text : String) : Prop :=
  ∃ l : Likeness, p = l.condition column ∧ l.Holds text

theorem Predicate.selectsText_condition (column : String) (l : Likeness) (text : String) :
    (l.condition column).SelectsText column text ↔ l.Holds text := by
  constructor
  · rintro ⟨m, hsame, hholds⟩
    rwa [Likeness.condition_inj hsame]
  · exact fun hholds => ⟨l, rfl, hholds⟩

end ReportFilters
