import ReportFilters.Proofs.Fragment.Marks

/-! Markers by their places. A fragment is numbered character by character: what becomes of a character
hangs on its place in the text and on the markers before it. -/

namespace ReportFilters.Fragment

def IsMarkerAt (inside : Option Char) (text : List Char) (i : Nat) : Prop :=
  text[i]? = some '?' ∧ (text.take i).foldl quoteAfter inside = none

instance (inside : Option Char) (text : List Char) (i : Nat) : Decidable (IsMarkerAt inside text i) :=
  inferInstanceAs (Decidable (_ ∧ _))

def markersBefore (inside : Option Char) (text : List Char) (i : Nat) : Nat :=
  (List.range i).countP fun place => IsMarkerAt inside text place

def marked (mark : Nat → String) (next : Nat) (inside : Option Char) (text : List Char) : List Char :=
  (text.mapIdx fun i c =>
    if IsMarkerAt inside text i then (mark (next + markersBefore inside text i)).toList
    else [c]).flatten

section
variable (inside : Option Char) (c : Char) (rest : List Char)

theorem isMarkerAt_zero : IsMarkerAt inside (c :: rest) 0 ↔ inside = none ∧ c = '?' := by
  simp [IsMarkerAt, and_comm]

theorem isMarkerAt_succ (i : Nat) :
    IsMarkerAt inside (c :: rest) (i + 1) ↔ IsMarkerAt (quoteAfter inside c) rest i := by
  simp [IsMarkerAt]

theorem markersBefore_succ (i : Nat) : markersBefore inside (c :: rest) (i + 1)
    = (if inside = none ∧ c = '?' then 1 else 0) + markersBefore (quoteAfter inside c) rest i := by
  simp only [markersBefore, List.range_succ_eq_map, List.countP_cons, List.countP_map, Function.comp_def,
    Nat.succ_eq_add_one, isMarkerAt_succ, isMarkerAt_zero, decide_eq_true_eq]
  exact Nat.add_comm ..

end

theorem markerCount_eq (inside : Option Char) (text : List Char) :
    markerCount inside text = markersBefore inside text text.length := by
  induction text generalizing inside with
  | nil => rfl
  | cons c rest ih => rw [markerCount, ih, List.length_cons, markersBefore_succ]

theorem number_eq_marked (mark : Nat → String) (next : Nat) (inside : Option Char) (text : List Char) :
    number mark next inside text = marked mark next inside text := by
  induction text generalizing next inside with
  | nil => rfl
  | cons c rest ih =>
    have hrest (next' : Nat) (h : next' = next + if inside = none ∧ c = '?' then 1 else 0) :
        number mark next' (quoteAfter inside c) rest
          = (rest.mapIdx fun i d =>
              if IsMarkerAt inside (c :: rest) (i + 1) then
                (mark (next + markersBefore inside (c :: rest) (i + 1))).toList
              else [d]).flatten := by
      rw [ih, marked, h]
      simp only [isMarkerAt_succ, markersBefore_succ, Nat.add_assoc]
    rw [marked, List.mapIdx_cons, List.flatten_cons, number]
    by_cases hc : inside = none ∧ c = '?'
    · obtain ⟨rfl, rfl⟩ := hc
      rw [if_pos ⟨rfl, rfl⟩, if_pos ((isMarkerAt_zero ..).mpr ⟨rfl, rfl⟩)]
      exact congrArg _ (hrest (next + 1) (by simp))
    · rw [if_neg hc, if_neg (mt (isMarkerAt_zero ..).mp hc), List.singleton_append,
        hrest next (by simp [hc])]

example : String.ofList (marked Dialect.postgresql.placeholder 3 none "a = ? AND b = '?' AND c = ?".toList)
    = "a = $3 AND b = '?' AND c = $4" := by
  decide +kernel

end ReportFilters.Fragment
