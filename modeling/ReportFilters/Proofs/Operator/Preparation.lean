import Mathlib.Data.List.TakeDrop
import Mathlib.Logic.Relation
import ReportFilters.Operator.Basic

/-! Values that make no difference. Nulls are left out and a fixed arity cuts what is left, in this order
and before anything else is done with values, so that an operator answers alike for all lists that come
of each other by putting in or taking out nulls and by changing what is beyond the arity. Those are all
the lists it is given the same values of. -/

namespace ReportFilters

namespace Arity

inductive Change (arity : Arity) : List Value → List Value → Prop
  | null (before after : List Value) : Change arity (before ++ .null :: after) (before ++ after)
  /-- There are as many values before as the arity asks for, the nulls among them not counted. -/
  | surplus {count : Nat} (harity : arity = .fixed count) {before : List Value}
    (hcount : (before.filter fun v => !v.isNull).length = count) (after other : List Value) :
    Change arity (before ++ after) (before ++ other)

def Alike (arity : Arity) : List Value → List Value → Prop := Relation.EqvGen arity.Change

theorem prepare_eq_of_change {arity : Arity} {values other : List Value} (h : arity.Change values other) :
    arity.prepare values = arity.prepare other := by
  cases h with
  | null before after =>
    have hpresent : (before ++ .null :: after).filter (fun v => !v.isNull)
        = (before ++ after).filter fun v => !v.isNull := by
      rw [List.filter_append, List.filter_append, List.filter_cons_of_neg (by decide)]
    simp only [prepare, hpresent]
  | @surplus count harity before hcount after other =>
    subst harity
    rw [prepare, prepare, List.filter_append, List.filter_append, List.take_left' hcount, List.take_left' hcount]

theorem alike_filter (arity : Arity) (before values : List Value) :
    arity.Alike (before ++ values) (before ++ values.filter fun v => !v.isNull) := by
  induction values generalizing before with
  | nil => exact .refl _
  | cons v rest ih =>
    cases hv : v.isNull with
    | true =>
      obtain rfl : v = .null := by
        cases v with
        | null => rfl
        | _ => cases hv
      rw [List.filter_cons_of_neg (by decide)]
      exact .trans _ _ _ (.rel _ _ (.null before rest)) (ih before)
    | false =>
      have hrest := ih (before ++ [v])
      rw [List.append_assoc, List.append_assoc] at hrest
      rw [List.filter_cons_of_pos (by simp [hv])]
      exact hrest

theorem alike_take {count : Nat} {present : List Value} (hpresent : ∀ v ∈ present, (!v.isNull) = true) :
    (fixed count).Alike present (present.take count) := by
  by_cases hcount : count ≤ present.length
  · have htaken : ((present.take count).filter fun v => !v.isNull).length = count := by
      rw [List.filter_eq_self.mpr fun v hv => hpresent v (List.mem_of_mem_take hv),
        List.length_take_of_le hcount]
    have hcut := Change.surplus rfl htaken (present.drop count) []
    rw [List.take_append_drop, List.append_nil] at hcut
    exact .rel _ _ hcut
  · rw [List.take_of_length_le (Nat.le_of_not_le hcount)]
    exact .refl _

theorem alike_prepare (arity : Arity) (values : List Value) :
    arity.Alike values (arity.prepare values) := by
  have hpresent := arity.alike_filter [] values
  cases arity with
  | variadic => exact hpresent
  | fixed count => exact .trans _ _ _ hpresent (alike_take fun v hv => (List.mem_filter.mp hv).2)

theorem prepare_eq_iff {arity : Arity} {values other : List Value} :
    arity.prepare values = arity.prepare other ↔ arity.Alike values other := by
  constructor
  · intro h
    exact .trans _ _ _ (arity.alike_prepare values) (h ▸ .symm _ _ (arity.alike_prepare other))
  · intro h
    induction h with
    | rel _ _ hchange => exact prepare_eq_of_change hchange
    | refl _ => rfl
    | symm _ _ _ ih => exact ih.symm
    | trans _ _ _ _ _ ih ih' => exact ih.trans ih'

end Arity

namespace Operator

variable {op : Operator} {values other : List Value} (h : op.arity.Alike values other)
include h

theorem prepare_eq_of_alike : op.prepare values = op.prepare other := Arity.prepare_eq_iff.mpr h

theorem complaints_eq_of_alike : op.complaints values = op.complaints other := by
  simp only [complaints, prepare_eq_of_alike h]

theorem errors_eq_of_alike : op.errors values = op.errors other := by
  rw [errors, errors, complaints_eq_of_alike h]

theorem accepts_eq_of_alike : op.accepts values = op.accepts other := by
  rw [accepts, accepts, complaints_eq_of_alike h]

theorem contribute_eq_of_alike (column : String) (clock : Clock) :
    op.contribute column values clock = op.contribute column other clock := by
  simp only [contribute, prepare_eq_of_alike h]

end Operator
end ReportFilters
