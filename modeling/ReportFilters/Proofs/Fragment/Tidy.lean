import ReportFilters.Proofs.Fragment.Marks

/-! Texts that can stand next to each other. A tidy text closes its quotes and gives a reader no
marks except for its markers. Tidy texts one after the other are tidy, so a condition is tidy as
soon as its pieces are. -/

namespace ReportFilters.Fragment

structure Tidy (text : List Char) (count : Nat) : Prop where
  apart : startsApart text
  closed : text.foldl quoteAfter none = none
  clear : isClear none text
  count_eq : markerCount none text = count

abbrev Bare (text : List Char) : Prop := Tidy text 0

instance (text : List Char) (count : Nat) : Decidable (Tidy text count) :=
  decidable_of_iff (startsApart text ∧ text.foldl quoteAfter none = none ∧ isClear none text ∧
      markerCount none text = count)
    ⟨fun h => ⟨h.1, h.2.1, h.2.2.1, h.2.2.2⟩, fun h => ⟨h.apart, h.closed, h.clear, h.count_eq⟩⟩

/-- A text in which a reader finds just these marks, whatever stands around it. -/
structure Reads (text : List Char) (found : List (List Char)) : Prop where
  apart : startsApart text
  closed : text.foldl quoteAfter none = none
  marks_eq : marks none text = found

namespace Tidy

theorem append {a b : List Char} {m n : Nat} (ha : Tidy a m) (hb : Tidy b n) :
    Tidy (a ++ b) (m + n) where
  apart := startsApart_append ha.apart hb.apart
  closed := by rw [List.foldl_append, ha.closed, hb.closed]
  clear := isClear_append ha.clear (by rw [ha.closed]; exact hb.clear) hb.apart
  count_eq := by rw [markerCount_append, ha.closed, ha.count_eq, hb.count_eq]

theorem number {text : List Char} {count : Nat} (h : Tidy text count) (d : Dialect) (next : Nat) :
    Reads (number d.placeholder next none text) (placeholders d next count) where
  apart := startsApart_number h.apart
  closed := by rw [foldl_quoteAfter_number, h.closed]
  marks_eq := by rw [marks_number h.clear, h.count_eq]

end Tidy

namespace Bare

theorem reads {text : List Char} (h : Bare text) : Reads text [] := by
  have hr := Tidy.number h .sqlite 1
  rw [number_of_markerCount_eq_zero h.count_eq] at hr
  exact hr

theorem of_plain {text : List Char} (hs : startsApart text)
    (h : ∀ c ∈ text, isQuote c = false ∧ c ≠ '?' ∧ c ≠ '$') : Bare text where
  apart := hs
  closed := foldl_quoteAfter_of_plain fun c hc => (h c hc).1
  clear := by
    clear hs
    induction text with
    | nil => rfl
    | cons c rest ih =>
      have hc := h c (List.mem_cons_self ..)
      have hrest := ih fun e he => h e (List.mem_cons_of_mem _ he)
      simp [isClear, quoteAfter, hc, hrest]
  count_eq := by
    clear hs
    induction text with
    | nil => rfl
    | cons c rest ih =>
      have hc := h c (List.mem_cons_self ..)
      have hrest := ih fun e he => h e (List.mem_cons_of_mem _ he)
      simp [markerCount, quoteAfter, hc, hrest]

end Bare

namespace Reads

theorem append {a b : List Char} {x y : List (List Char)} (ha : Reads a x) (hb : Reads b y) :
    Reads (a ++ b) (x ++ y) where
  apart := startsApart_append ha.apart hb.apart
  closed := by rw [List.foldl_append, ha.closed, hb.closed]
  marks_eq := by rw [marks_append hb.apart, ha.closed, ha.marks_eq, hb.marks_eq]

end Reads

/-! What every piece of a text has and two neighbours keep, the text has. -/

theorem join_of_append {P : List Char → Prop} (hnil : P []) (happend : ∀ {a b}, P a → P b → P (a ++ b))
    {texts : List String} (h : ∀ s ∈ texts, P s.toList) : P (String.join texts).toList := by
  induction texts with
  | nil => simpa using hnil
  | cons s rest ih =>
    rw [String.join_cons, String.toList_append]
    exact happend (h s (List.mem_cons_self ..)) (ih fun t ht => h t (List.mem_cons_of_mem _ ht))

theorem intercalate_of_append {P : List Char → Prop} (hnil : P [])
    (happend : ∀ {a b}, P a → P b → P (a ++ b)) {separator : String} (hsep : P separator.toList)
    {texts : List String} (h : ∀ s ∈ texts, P s.toList) :
    P (separator.intercalate texts).toList := by
  induction texts with
  | nil => simpa using hnil
  | cons s rest ih =>
    have hs := h s (List.mem_cons_self ..)
    have hrest := ih fun t ht => h t (List.mem_cons_of_mem _ ht)
    cases rest with
    | nil => simpa using hs
    | cons t more =>
      rw [String.intercalate_cons_cons, String.toList_append, String.toList_append]
      exact happend (happend hs hsep) hrest

end ReportFilters.Fragment
