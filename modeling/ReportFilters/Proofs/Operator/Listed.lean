import ReportFilters.Proofs.Operator.RelativeDays
import ReportFilters.Proofs.Sql.Truth

/-! Operators on lists of values. What is listed and what is not are two halves of all rows: a null among the
values is dropped before it could leave a comparison open, and a null in the column counts as not listed. -/

namespace ReportFilters

namespace CellTest

section
variable {α : Type} (same : α → Value → Bool) (cell : Option α)

theorem equals_eq_yes_iff (v : Value) :
    equals same cell v = .yes ↔ ∃ a, cell = some a ∧ v.isNull = false ∧ same a v = true := by
  cases cell with
  | none => simp [equals]
  | some a =>
    cases h : v.isNull with
    | true => simp [equals, h]
    | false => simp [equals, h, Truth.ofBool_eq_yes_iff]

theorem equals_eq_no_iff (v : Value) :
    equals same cell v = .no ↔ ∃ a, cell = some a ∧ v.isNull = false ∧ same a v = false := by
  cases cell with
  | none => simp [equals]
  | some a =>
    cases h : v.isNull with
    | true => simp [equals, h]
    | false => simp [equals, h, Truth.ofBool_eq_no_iff]

theorem truth_among_eq_yes_iff (values : List Value) :
    (among values).truth same cell = .yes ↔
      ∃ a, cell = some a ∧ ∃ v ∈ values, v.isNull = false ∧ same a v = true := by
  rw [truth, Truth.anyOf_eq_yes_iff, List.mem_map]
  constructor
  · rintro ⟨v, hv, hyes⟩
    obtain ⟨a, ha, hpresent, hsame⟩ := (equals_eq_yes_iff same cell v).mp hyes
    exact ⟨a, ha, v, hv, hpresent, hsame⟩
  · rintro ⟨a, ha, v, hv, hpresent, hsame⟩
    exact ⟨v, hv, (equals_eq_yes_iff same cell v).mpr ⟨a, ha, hpresent, hsame⟩⟩

theorem truth_outside_eq_yes_iff {values : List Value} (h : ∀ v ∈ values, v.isNull = false) (a : α) :
    (outside values).truth same (some a) = .yes ↔ ∀ v ∈ values, same a v = false := by
  rw [truth, Truth.not_eq_yes_iff, Truth.anyOf_eq_no_iff, List.forall_mem_map]
  constructor
  · intro hno v hv
    obtain ⟨b, hb, _, hsame⟩ := (equals_eq_no_iff same (some a) v).mp (hno v hv)
    cases hb
    exact hsame
  · intro hsame v hv
    exact (equals_eq_no_iff same (some a) v).mpr ⟨a, rfl, h v hv, hsame v hv⟩

theorem truth_missing_eq_yes_iff {values : List Value} (h : ∀ v ∈ values, v.isNull = false) :
    (either isNull (outside values)).truth same cell = .yes ↔
      cell = none ∨ ∃ a, cell = some a ∧ ∀ v ∈ values, same a v = false := by
  rw [truth, Truth.or_eq_yes_iff, truth, Truth.ofBool_eq_yes_iff, Option.isNone_iff_eq_none]
  cases cell with
  | none => simp
  | some a =>
    rw [truth_outside_eq_yes_iff same h]
    simp

end

end CellTest

theorem Arity.mem_prepare_variadic {values : List Value} {v : Value} :
    v ∈ Arity.variadic.prepare values ↔ v ∈ values ∧ v.isNull = false := by
  show v ∈ values.filter (fun v => !v.isNull) ↔ _
  simp

namespace Builtin

theorem markers_eq (values : List Value) : markers values.length = CellTest.marks values := by
  rw [markers, CellTest.marks, List.map_const']

theorem predicate_equal (column : String) (values : List Value) (clock : Clock) :
    equal.predicate column values clock = .ok ((CellTest.among values).condition column) := by
  show Except.ok (⟨column ++ " IN (" ++ markers values.length ++ ")", values⟩ : Predicate) = _
  rw [markers_eq]
  rfl

theorem predicate_notEqual (column : String) (values : List Value) (clock : Clock) :
    notEqual.predicate column values clock
      = .ok ((CellTest.either .isNull (.outside values)).condition column) := by
  show Except.ok (⟨"(" ++ column ++ " IS NULL OR " ++ column ++ " NOT IN (" ++ markers values.length
    ++ "))", values⟩ : Predicate) = _
  rw [markers_eq]
  simp [CellTest.condition, CellTest.text, CellTest.params, String.append_assoc]

section
variable {values : List Value} {dialect : Dialect} {column : String} {clock : Clock} {p : Predicate}

theorem condition_variadic_eq_ok_iff {op : Builtin} (harity : op.arity = .variadic) :
    op.condition dialect column values clock = .ok p ↔ clock.hasToday = true ∧
      (∃ v ∈ values, v.isNull = false) ∧
      op.predicate (dialect.quoteQualified column) (Arity.variadic.prepare values) clock = .ok p := by
  have hmet : Arity.variadic.isMetBy (Arity.variadic.prepare values).length = true ↔
      ∃ v ∈ values, v.isNull = false := by
    simp only [Arity.isMetBy, decide_eq_true_eq, List.length_pos_iff_exists_mem,
      Arity.mem_prepare_variadic]
  rw [condition_eq_ok_iff, harity, hmet]

theorem condition_without_nulls {op : Builtin} (harity : op.arity = .variadic) (values : List Value)
    (dialect : Dialect) (column : String) (clock : Clock) :
    op.condition dialect column values clock
      = op.condition dialect column (values.filter fun v => !v.isNull) clock := by
  apply condition_congr
  rw [harity]
  show values.filter (fun v => !v.isNull)
    = (values.filter fun v => !v.isNull).filter fun v => !v.isNull
  rw [List.filter_filter]
  simp

theorem hasTruth_equal_iff (h : equal.condition dialect column values clock = .ok p) {α : Type}
    (same : α → Value → Bool) (cell : Option α) :
    p.HasTruth (dialect.quoteQualified column) same cell .yes ↔
      ∃ a, cell = some a ∧ ∃ v ∈ values, v.isNull = false ∧ same a v = true := by
  obtain ⟨_, _, hpredicate⟩ := (condition_variadic_eq_ok_iff rfl).mp h
  rw [predicate_equal] at hpredicate
  cases hpredicate
  rw [Predicate.hasTruth_condition (dialect.head?_quoteQualified column),
    CellTest.truth_among_eq_yes_iff]
  simp only [Arity.mem_prepare_variadic, and_assoc, and_self_left]

theorem hasTruth_notEqual_iff (h : notEqual.condition dialect column values clock = .ok p) {α : Type}
    (same : α → Value → Bool) (cell : Option α) :
    p.HasTruth (dialect.quoteQualified column) same cell .yes ↔
      cell = none ∨ ∃ a, cell = some a ∧ ∀ v ∈ values, v.isNull = false → same a v = false := by
  obtain ⟨_, _, hpredicate⟩ := (condition_variadic_eq_ok_iff rfl).mp h
  rw [predicate_notEqual] at hpredicate
  cases hpredicate
  have hpresent : ∀ v ∈ Arity.variadic.prepare values, v.isNull = false :=
    fun v hv => (Arity.mem_prepare_variadic.mp hv).2
  rw [Predicate.hasTruth_condition (dialect.head?_quoteQualified column),
    CellTest.truth_missing_eq_yes_iff same cell hpresent]
  simp only [Arity.mem_prepare_variadic, and_imp]

end

/-- For values that are not all null the two operators on lists split the rows. The one selects those whose
cell is not null and equals a listed value other than null, the other those whose cell is null or equals no
such value. Nulls among the values make no difference to either. -/
theorem equal_notEqual_split {values : List Value} (hsome : ∃ v ∈ values, v.isNull = false)
    (dialect : Dialect) (column : String) (clock : Clock) :
    (∀ op ∈ [equal, notEqual],
      (clock.hasToday = true → ∃ p, op.condition dialect column values clock = .ok p) ∧
      op.condition dialect column values clock
        = op.condition dialect column (values.filter fun v => !v.isNull) clock) ∧
    ∀ p q, equal.condition dialect column values clock = .ok p →
      notEqual.condition dialect column values clock = .ok q →
      ∀ {α : Type} (same : α → Value → Bool) (cell : Option α),
        (p.HasTruth (dialect.quoteQualified column) same cell .yes ↔
          ∃ a, cell = some a ∧ ∃ v ∈ values, v.isNull = false ∧ same a v = true) ∧
        (q.HasTruth (dialect.quoteQualified column) same cell .yes ↔
          cell = none ∨ ∃ a, cell = some a ∧ ∀ v ∈ values, v.isNull = false → same a v = false) ∧
        (p.HasTruth (dialect.quoteQualified column) same cell .yes ↔
          ¬q.HasTruth (dialect.quoteQualified column) same cell .yes) := by
  constructor
  · intro op hop
    have harity : op.arity = .variadic := by
      simp only [List.mem_cons, List.not_mem_nil, or_false] at hop
      rcases hop with rfl | rfl <;> rfl
    refine ⟨fun htoday => ?_, condition_without_nulls harity values dialect column clock⟩
    simp only [List.mem_cons, List.not_mem_nil, or_false] at hop
    rcases hop with rfl | rfl
    · exact ⟨_, (condition_variadic_eq_ok_iff rfl).mpr ⟨htoday, hsome, predicate_equal ..⟩⟩
    · exact ⟨_, (condition_variadic_eq_ok_iff rfl).mpr ⟨htoday, hsome, predicate_notEqual ..⟩⟩
  · intro p q hp hq α same cell
    have hequal := hasTruth_equal_iff hp same cell
    have hnotEqual := hasTruth_notEqual_iff hq same cell
    refine ⟨hequal, hnotEqual, ?_⟩
    rw [hequal, hnotEqual]
    cases cell with
    | none => simp
    | some a => simp

def threeAndNulls : List Value := [.null, .int 3, .null, .int 3]

theorem equal_notEqual_split_threeAndNulls : ∃ p q, (∃ v ∈ threeAndNulls, v.isNull = false) ∧
    equal.condition .mysql "entries.project_id" threeAndNulls mayNoon = .ok p ∧
    notEqual.condition .mysql "entries.project_id" threeAndNulls mayNoon = .ok q ∧
    p.HasTruth "entries.project_id" Value.means (some (.int 3)) .yes ∧
    q.HasTruth "entries.project_id" Value.means (some (.int 4)) .yes ∧
    q.HasTruth "entries.project_id" Value.means none .yes := by
  have hsome : ∃ v ∈ threeAndNulls, v.isNull = false := ⟨.int 3, by decide, rfl⟩
  obtain ⟨hexists, hsplit⟩ :=
    equal_notEqual_split hsome .mysql "entries.project_id" mayNoon
  obtain ⟨p, hp⟩ := (hexists equal (by decide)).1 (by decide)
  obtain ⟨q, hq⟩ := (hexists notEqual (by decide)).1 (by decide)
  have hcolumn : Dialect.mysql.quoteQualified "entries.project_id" = "entries.project_id" := by
    decide +kernel
  have hrows := fun cell => hsplit p q hp hq Value.means cell
  rw [hcolumn] at hrows
  refine ⟨p, q, hsome, hp, hq, ?_, ?_, ?_⟩
  · rw [(hrows _).1]
    exact ⟨_, rfl, .int 3, by decide, rfl, by decide⟩
  · rw [(hrows _).2.1]
    exact .inr ⟨_, rfl, by decide⟩
  · rw [(hrows _).2.1]
    exact .inl rfl

end Builtin
end ReportFilters
