import ReportFilters.Operator.Builtin

/-! Conditions that bound a column by instants, and the instants they select. The comparisons of a
condition can be read off its text in one way only, so what it selects is settled by the text and
the parameters. -/

namespace ReportFilters

def Instant.Before (t u : Instant) : Prop :=
  t.second < u.second ∨ t.second = u.second ∧ t.nano < u.nano

inductive Comparison where
  | less | lessOrEqual | greater | greaterOrEqual
deriving DecidableEq

namespace Comparison

def text : Comparison → String
  | less => " < ?"
  | lessOrEqual => " <= ?"
  | greater => " > ?"
  | greaterOrEqual => " >= ?"

def Holds : Comparison → Instant → Instant → Prop
  | less, x, t => x.Before t
  | lessOrEqual, x, t => ¬t.Before x
  | greater, x, t => t.Before x
  | greaterOrEqual, x, t => ¬x.Before t

theorem text_append_inj {a b : Comparison} {u v : List Char}
    (h : a.text.toList ++ u = b.text.toList ++ v) : a = b ∧ u = v := by
  cases a <;> cases b <;> simp [text] at h <;> exact ⟨rfl, h⟩

theorem holds_inOffset (c : Comparison) (x t : Instant) (offset : Offset) :
    c.Holds x (t.inOffset offset) ↔ c.Holds x t := by
  cases c <;> exact Iff.rfl

end Comparison

structure Bound where
  comparison : Comparison
  instant : Instant

namespace Bound

def text (column : String) (bound : Bound) : String := column ++ bound.comparison.text

def conjunction (column : String) (bounds : List Bound) : Predicate :=
  ⟨" AND ".intercalate (bounds.map (text column)), bounds.map fun bound => .instant bound.instant⟩

def Holds (bound : Bound) (x : Instant) : Prop := bound.comparison.Holds x bound.instant

theorem conjunction_inj {column : String} {bounds others : List Bound}
    (h : conjunction column bounds = conjunction column others) : bounds = others := by
  obtain ⟨htext, hparams⟩ := Predicate.mk.inj h
  clear h
  induction bounds generalizing others with
  | nil => exact (List.map_eq_nil_iff.mp hparams.symm).symm
  | cons b more ih =>
    obtain ⟨comparison, instant⟩ := b
    obtain ⟨⟨comparison', _⟩, more', rfl, heq, hrest⟩ := List.map_eq_cons_iff.mp hparams.symm
    cases heq
    have hchars := congrArg String.toList htext
    -- both conditions go on after the first bound or neither does, as they have as many parameters
    cases more with
    | nil =>
      rw [List.map_nil, List.map_eq_nil_iff] at hrest
      subst hrest
      simp only [List.map_cons, List.map_nil, String.intercalate_singleton, text,
        String.toList_append] at hchars
      have hfirst := congrArg (· ++ []) (List.append_cancel_left hchars)
      rw [(Comparison.text_append_inj hfirst).1]
    | cons c more =>
      obtain ⟨c', more', rfl, _, _⟩ := List.map_eq_cons_iff.mp hrest
      simp only [List.map_cons, String.intercalate_cons_cons, text, String.toList_append,
        List.append_assoc] at hchars
      obtain ⟨rfl, hmore⟩ := Comparison.text_append_inj (List.append_cancel_left hchars)
      have hmore := List.append_cancel_left hmore
      rw [ih ?_ hrest.symm]
      rw [← String.toList_inj]
      simpa only [List.map_cons, text] using hmore

end Bound

namespace Predicate

def Selects (p : Predicate) (column : String) (x : Instant) : Prop :=
  ∃ bounds, p = Bound.conjunction column bounds ∧ ∀ bound ∈ bounds, bound.Holds x

theorem selects_conjunction (column : String) (bounds : List Bound) (x : Instant) :
    (Bound.conjunction column bounds).Selects column x ↔ ∀ bound ∈ bounds, bound.Holds x := by
  constructor
  · rintro ⟨others, hsame, hall⟩
    rwa [Bound.conjunction_inj hsame]
  · exact fun hall => ⟨bounds, rfl, hall⟩

end Predicate
end ReportFilters
