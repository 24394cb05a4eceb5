import ReportFilters.Text.Blank

/-! Texts that differ in the blanks around them and in nothing else. Trimming takes just those away. -/

namespace ReportFilters.Text

def AllBlank (text : List Char) : Prop := ∀ c ∈ text, isBlank c = true

def SameButBlanks (s t : String) : Prop :=
  ∃ core front back front' back', AllBlank front ∧ AllBlank back ∧ AllBlank front' ∧ AllBlank back' ∧
    s.toList = front ++ core ++ back ∧ t.toList = front' ++ core ++ back'

theorem AllBlank.dropWhile_append {front : List Char} (h : AllBlank front) (text : List Char) :
    (front ++ text).dropWhile isBlank = text.dropWhile isBlank :=
  List.dropWhile_append_of_pos h

theorem AllBlank.reverse {text : List Char} (h : AllBlank text) : AllBlank text.reverse :=
  fun c hc => h c (List.mem_reverse.mp hc)

theorem trimEnd_append {back : List Char} (h : AllBlank back) (text : List Char) :
    trimEnd (text ++ back) = trimEnd text := by
  rw [trimEnd, trimEnd, List.reverse_append, h.reverse.dropWhile_append]

theorem trimmed_append {back : List Char} (h : AllBlank back) (text : List Char) :
    trimmed (text ++ back) = trimmed text := by
  rw [trimmed, trimmed, trimStart, trimStart, List.dropWhile_append]
  split
  next hnone =>
    have hback : back.dropWhile isBlank = [] := by
      simpa using h.dropWhile_append []
    rw [hback, List.isEmpty_iff.mp hnone]
  next => exact trimEnd_append h _

theorem trimmed_surrounded {front back : List Char} (hfront : AllBlank front) (hback : AllBlank back)
    (core : List Char) : trimmed (front ++ core ++ back) = trimmed core := by
  rw [trimmed_append hback, trimmed, trimStart, hfront.dropWhile_append]
  rfl

theorem allBlank_takeWhile (text : List Char) : AllBlank (text.takeWhile isBlank) :=
  List.all_eq_true.mp List.all_takeWhile

theorem exists_surrounded (text : List Char) :
    ∃ front back, AllBlank front ∧ AllBlank back ∧ text = front ++ trimmed text ++ back := by
  let back := ((trimStart text).reverse.takeWhile isBlank).reverse
  have hback : trimStart text = trimmed text ++ back := by
    rw [trimmed, trimEnd, ← List.reverse_append, List.takeWhile_append_dropWhile, List.reverse_reverse]
  refine ⟨text.takeWhile isBlank, back, allBlank_takeWhile text, (allBlank_takeWhile _).reverse, ?_⟩
  rw [List.append_assoc, ← hback, trimStart, List.takeWhile_append_dropWhile]

theorem sameButBlanks_iff {s t : String} : SameButBlanks s t ↔ trim s = trim t := by
  rw [trim, trim, String.ofList_inj]
  constructor
  · rintro ⟨core, front, back, front', back', hfront, hback, hfront', hback', hs, ht⟩
    rw [hs, ht, trimmed_surrounded hfront hback, trimmed_surrounded hfront' hback']
  · intro h
    obtain ⟨front, back, hfront, hback, hs⟩ := exists_surrounded s.toList
    obtain ⟨front', back', hfront', hback', ht⟩ := exists_surrounded t.toList
    exact ⟨_, front, back, front', back', hfront, hback, hfront', hback', hs, h ▸ ht⟩

def Unblank (text : List Char) : Prop := ∀ c ∈ text, isBlank c = false

instance (text : List Char) : Decidable (Unblank text) := List.decidableBAll _ text

theorem unblank_append {front back : List Char} :
    Unblank (front ++ back) ↔ Unblank front ∧ Unblank back := List.forall_mem_append

theorem Unblank.dropWhile_eq {text : List Char} (h : Unblank text) : text.dropWhile isBlank = text := by
  cases text with
  | nil => rfl
  | cons c rest => exact List.dropWhile_cons_of_neg (by simp [h c (List.mem_cons_self ..)])

theorem Unblank.trimmed_eq {text : List Char} (h : Unblank text) : trimmed text = text := by
  have hreverse : Unblank text.reverse := fun c hc => h c (List.mem_reverse.mp hc)
  rw [trimmed, trimStart, h.dropWhile_eq, trimEnd, hreverse.dropWhile_eq, List.reverse_reverse]

theorem Unblank.trimmed_of_sameButBlanks {s t : String} (h : Unblank t.toList) (hs : SameButBlanks s t) :
    trimmed s.toList = t.toList := by
  have htrim := sameButBlanks_iff.mp hs
  rw [trim, trim, String.ofList_inj] at htrim
  rw [htrim, h.trimmed_eq]

end ReportFilters.Text
