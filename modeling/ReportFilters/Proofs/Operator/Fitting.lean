import ReportFilters.Proofs.Filter.Contribution
import ReportFilters.Proofs.Operator.Midnights

/-! The values an operator works on. Its check and its body only ever meet lists without a null and of a
length that fits its arity. So no built-in operator reads past the end of its list, and since a count of
days is bounded by then, words of 64 bits are wide enough for what is made of it. -/

namespace ReportFilters

namespace Arity

structure Fitting (arity : Arity) where
  values : List Value
  present : Value.null ∉ values
  fixed : ∀ count, arity = .fixed count → values.length = count
  variadic : arity = .variadic → values ≠ []

theorem isMetBy_iff {arity : Arity} {values : List Value} : arity.isMetBy values.length ↔
    (∀ count, arity = .fixed count → values.length = count) ∧ (arity = .variadic → values ≠ []) := by
  cases arity with
  | fixed count => simp [isMetBy]
  | variadic => simp [isMetBy, List.length_pos_iff]

theorem null_not_mem_prepare (arity : Arity) (values : List Value) :
    Value.null ∉ arity.prepare values := by
  intro hmem
  have hnull := not_isNull_of_mem_prepare hmem
  cases hnull

def Fitting.ofValues {arity : Arity} {values : List Value}
    (h : arity.isMetBy (arity.prepare values).length) : arity.Fitting where
  values := arity.prepare values
  present := arity.null_not_mem_prepare values
  fixed := (isMetBy_iff.mp h).1
  variadic := (isMetBy_iff.mp h).2

def fitting? (arity : Arity) (values : List Value) : Option arity.Fitting :=
  if h : arity.isMetBy (arity.prepare values).length then some (Fitting.ofValues h) else none

end Arity

namespace Operator

/-- Values are made to fit before anything else, and those that cannot be are answered without a look at
the check or the body. -/
structure Sheltered (op : Operator) : Prop where
  complaints : ∀ values, op.complaints values =
    match op.arity.fitting? values with
    | some fit => op.check fit.values
    | none => [.count op.token op.arity (op.prepare values).length]
  contribute : ∀ column values clock, op.contribute column values clock =
    if column.isEmpty then pure ()
    else match op.arity.fitting? values with
      | some fit => op.body column fit.values clock
      | none => throw (.error (Error.arityMismatch op.token op.arity.text (op.prepare values).length))

theorem sheltered (op : Operator) : op.Sheltered := by
  constructor
  · intro values
    rw [complaints_eq_check, prepare, Arity.fitting?]
    split <;> rfl
  · intro column values clock
    rw [contribute_eq_body, prepare, Arity.fitting?]
    split
    · rfl
    · split <;> rfl

structure FitsLike (op other : Operator) : Prop where
  token : other.token = op.token
  arity : other.arity = op.arity
  check : ∀ fit : op.arity.Fitting, other.check fit.values = op.check fit.values
  body : ∀ (fit : op.arity.Fitting) column clock,
    other.body column fit.values clock = op.body column fit.values clock

theorem FitsLike.answers {op other : Operator} (h : FitsLike op other) (values : List Value) :
    other.complaints values = op.complaints values ∧
      ∀ column clock, other.contribute column values clock = op.contribute column values clock := by
  have hprepare : other.prepare values = op.prepare values := by rw [prepare, prepare, h.arity]
  simp only [complaints_eq_check, contribute_eq_body, hprepare, h.token, h.arity]
  by_cases hmet : op.arity.isMetBy (op.prepare values).length
  · have hcheck : other.check (op.prepare values) = op.check (op.prepare values) :=
      h.check (.ofValues hmet)
    have hbody : ∀ column clock,
        other.body column (op.prepare values) clock = op.body column (op.prepare values) clock :=
      h.body (.ofValues hmet)
    simp only [if_pos hmet, hcheck, hbody, true_and, implies_true]
  · simp only [if_neg hmet, true_and, implies_true]

end Operator

namespace Builtin

structure InBounds (result : Except ValueFault α) : Prop where
  not_missing : ∀ index, result ≠ .error (.missing index)

theorem inBounds_ok (a : α) : InBounds (.ok a) := ⟨nofun⟩

theorem InBounds.bind {result : Except ValueFault α} {next : α → Except ValueFault β}
    (h : InBounds result) (hnext : ∀ a, InBounds (next a)) : InBounds (result >>= next) := by
  cases result with
  | error fault =>
    constructor
    intro index heq
    apply h.not_missing index
    cases heq
    rfl
  | ok a => exact hnext a

theorem inBounds_valueAt {values : List Value} {index : Nat} (h : index < values.length) :
    InBounds (valueAt values index) := by
  rw [valueAt, List.getElem?_eq_getElem h]
  exact inBounds_ok _

theorem inBounds_usable {values : List Value} {index : Nat} (h : index < values.length)
    (read : Value → Option α) : InBounds (usable read values index) := by
  unfold usable
  refine (inBounds_valueAt h).bind fun v => ?_
  split
  · exact inBounds_ok _
  · exact ⟨nofun⟩

theorem inBounds_instantAt {values : List Value} {index : Nat} (h : index < values.length)
    (clock : Clock) : InBounds (instantAt clock values index) :=
  (inBounds_usable h _).bind fun _ => inBounds_ok _

theorem inBounds_boundary (clock : Clock) (day shift : Int) : InBounds (boundary clock day shift) := by
  unfold boundary
  split
  · exact inBounds_ok _
  · exact ⟨nofun⟩

theorem inBounds_dayRange (column : String) (clock : Clock) (day first past : Int) :
    InBounds (dayRange column clock day first past) :=
  (inBounds_boundary ..).bind fun _ => (inBounds_boundary ..).bind fun _ => inBounds_ok _

theorem inBounds_fromBoundary (column comparison : String) (clock : Clock) (shift : Int) :
    InBounds (fromBoundary column comparison clock shift) :=
  (inBounds_boundary ..).bind fun _ => inBounds_ok _

theorem inBounds_predicate {op : Builtin} (fit : op.arity.Fitting) (column : String) (clock : Clock) :
    InBounds (op.predicate column fit.values clock) := by
  have hfirst : ∀ count, op.arity = .fixed (count + 1) → 0 < fit.values.length := by
    intro count harity
    rw [fit.fixed _ harity]
    exact Nat.succ_pos count
  -- only `betweenDates` looks beyond the first value
  cases op with
  | contains | notContains => exact (inBounds_valueAt (hfirst 0 rfl)).bind fun _ => inBounds_ok _
  | numericEqual => exact (inBounds_usable (hfirst 0 rfl) _).bind fun _ => inBounds_ok _
  | today | thisWeek => exact inBounds_dayRange ..
  | daysAhead | daysAgo =>
    exact (inBounds_usable (hfirst 0 rfl) _).bind fun _ => inBounds_dayRange ..
  | beforeDaysAhead | afterDaysAhead | beforeDaysAgo | afterDaysAgo =>
    exact (inBounds_usable (hfirst 0 rfl) _).bind fun _ => inBounds_fromBoundary ..
  | onDate =>
    refine (inBounds_usable (hfirst 0 rfl) _).bind fun day => ?_
    split
    · exact inBounds_dayRange ..
    · exact ⟨nofun⟩
  | beforeDate | afterDate =>
    exact (inBounds_instantAt (hfirst 0 rfl) clock).bind fun _ => inBounds_ok _
  | betweenDates =>
    have hsecond : 1 < fit.values.length := by
      rw [fit.fixed 2 rfl]
      exact Nat.one_lt_two
    refine (inBounds_instantAt (hfirst 1 rfl) clock).bind fun _ => ?_
    exact (inBounds_instantAt hsecond clock).bind fun _ => inBounds_ok _
  | equal | notEqual | lessOrEqual | greaterOrEqual | empty | any | present | absent | zero | opened
  | closed => exact inBounds_ok _

def dayWord? (value : Value) : Option Int64 :=
  value.int64?.filter fun n => 0 ≤ n.toInt ∧ n.toInt ≤ dayLimit

theorem days?_eq_dayWord? (value : Value) : days? value = (dayWord? value).map Int64.toInt := by
  unfold days? dayWord?
  cases value.int64? with
  | none => rfl
  | some n =>
    simp only [Option.filter, decide_eq_true_eq]
    split <;> rfl

structure Exact (n : Int64) : Prop where
  next : (n + 1).toInt = n.toInt + 1
  back : (-n).toInt = -n.toInt
  backNext : (-n + 1).toInt = -n.toInt + 1

theorem exact_of_dayWord? {value : Value} {n : Int64} (h : dayWord? value = some n) : Exact n := by
  obtain ⟨-, hrange⟩ := Option.filter_eq_some_iff.mp h
  have hrange : 0 ≤ n.toInt ∧ n.toInt ≤ 100000 := of_decide_eq_true hrange
  have hone : (1 : Int64).toInt = 1 := rfl
  have hback : (-n).toInt = -n.toInt := by
    rw [Int64.toInt_neg, Int.bmod_eq_of_le] <;> omega
  constructor
  · rw [Int64.toInt_add, hone, Int.bmod_eq_of_le] <;> omega
  · exact hback
  · rw [Int64.toInt_add, hback, hone, Int.bmod_eq_of_le] <;> omega

def wordPredicate (op : Builtin) (column : String) (values : List Value) (clock : Clock) :
    Except ValueFault Predicate :=
  match op with
  | daysAhead => do
    let n ← usable dayWord? values 0
    dayRange column clock clock.today n.toInt (n + 1).toInt
  | daysAgo => do
    let n ← usable dayWord? values 0
    dayRange column clock clock.today (-n).toInt (-n + 1).toInt
  | beforeDaysAhead => do fromBoundary column "<" clock (← usable dayWord? values 0).toInt
  | afterDaysAhead => do fromBoundary column ">=" clock ((← usable dayWord? values 0) + 1).toInt
  | beforeDaysAgo => do fromBoundary column "<" clock (-(← usable dayWord? values 0)).toInt
  | afterDaysAgo => do fromBoundary column ">=" clock (-(← usable dayWord? values 0) + 1).toInt
  | _ => op.predicate column values clock

theorem bind_usable_dayWord? {ofWord : Int64 → Except ValueFault α} {ofInt : Int → Except ValueFault α}
    (h : ∀ n, Exact n → ofWord n = ofInt n.toInt) (values : List Value) (index : Nat) :
    (usable dayWord? values index >>= ofWord) = (usable days? values index >>= ofInt) := by
  cases hv : values[index]? with
  | none =>
    unfold usable valueAt
    rw [hv]
    rfl
  | some v =>
    have hread := days?_eq_dayWord? v
    cases hword : dayWord? v with
    | none =>
      rw [hword] at hread
      rw [usable_of_none hv hword, usable_of_none hv hread]
      rfl
    | some n =>
      rw [hword] at hread
      rw [usable_of_some hv hword, usable_of_some hv hread]
      exact h n (exact_of_dayWord? hword)

theorem wordPredicate_eq (op : Builtin) (column : String) (values : List Value) (clock : Clock) :
    op.wordPredicate column values clock = op.predicate column values clock := by
  cases op with
  | daysAhead =>
    refine bind_usable_dayWord? ?_ values 0
    intro n hn
    rw [hn.next]
  | daysAgo =>
    refine bind_usable_dayWord? ?_ values 0
    intro n hn
    rw [hn.back, hn.backNext]
  | beforeDaysAhead => exact bind_usable_dayWord? (fun _ _ => rfl) values 0
  | afterDaysAhead =>
    refine bind_usable_dayWord? ?_ values 0
    intro n hn
    rw [hn.next]
  | beforeDaysAgo =>
    refine bind_usable_dayWord? ?_ values 0
    intro n hn
    rw [hn.back]
  | afterDaysAgo =>
    refine bind_usable_dayWord? ?_ values 0
    intro n hn
    rw [hn.backNext]
  | _ => rfl

end Builtin

/-- An operator meets fitting values only, so that what it does with others has no part in its answers.
With fitting values the built-in ones stay within the list, and their words hold every shift. -/
theorem Operator.answers_of_fitting :
    (∀ op : Operator, op.Sheltered) ∧
    (∀ op other : Operator, op.FitsLike other → ∀ values,
      other.complaints values = op.complaints values ∧ ∀ column clock,
        other.contribute column values clock = op.contribute column values clock) ∧
    (∀ (op : Builtin) (fit : op.arity.Fitting) column clock index,
      op.predicate column fit.values clock ≠ .error (.missing index)) ∧
    (∀ value n, Builtin.dayWord? value = some n → Builtin.Exact n) ∧
    ∀ (op : Builtin) column values clock,
      op.wordPredicate column values clock = op.predicate column values clock := by
  refine ⟨sheltered, fun _ _ h => h.answers, ?_, fun _ _ => Builtin.exact_of_dayWord?,
    Builtin.wordPredicate_eq⟩
  intro op fit column clock index
  exact (Builtin.inBounds_predicate fit column clock).not_missing index

end ReportFilters
