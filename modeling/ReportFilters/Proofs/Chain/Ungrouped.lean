import ReportFilters.Proofs.Chain.Validity
import ReportFilters.Proofs.Operator.Undivided

/-! Conditions next to each other. What built-in operators add is never a disjunction at the top, not
even with its markers numbered, so a query of built-in filters has its conditions in a row as they
were added: no parentheses are put around any of them. -/

namespace ReportFilters

namespace Statement
open Fragment

theorem hasTopLevelOr_numbered (s : Statement) {fragment : String}
    (h : hasTopLevelOr fragment = false) : hasTopLevelOr (s.numbered fragment) = false := by
  rw [numbered]
  cases s.dialect with
  | postgresql =>
    rw [Bool.eq_false_iff, ne_eq, hasTopLevelOr_number_iff]
    rintro ⟨front, hor, _⟩
    have htop : hasTopLevelOr fragment = true := (hasTopLevelOr_iff fragment).mpr ⟨front, hor⟩
    exact Bool.false_ne_true (h.symm.trans htop)
  | mysql | sqlite =>
    rw [number_question, String.ofList_toList]
    · exact h
    · exact fun _ => rfl

def Undivided (s : Statement) : Prop := ∀ condition ∈ s.predicates, hasTopLevelOr condition = false

theorem undivided_empty (table : String) (dialect : Dialect) : Undivided (empty table dialect) := by
  intro condition hmem
  cases hmem

theorem Undivided.withJoins {s : Statement} (h : s.Undivided) (joins : List Join) :
    (s.withJoins joins).Undivided := by
  rw [Undivided, predicates_withJoins]
  exact h

theorem Undivided.withPredicate {s : Statement} (h : s.Undivided) {p : Predicate}
    (hp : hasTopLevelOr p.fragment = false) : (s.withPredicate p).Undivided := by
  intro condition hmem
  rcases List.mem_append.mp hmem with hold | hnew
  · exact h condition hold
  · rw [List.mem_singleton.mp hnew]
    exact s.hasTopLevelOr_numbered hp

theorem Undivided.withParts {s : Statement} (h : s.Undivided) {parts : List (Filter × Predicate)}
    (hp : ∀ part ∈ parts, hasTopLevelOr part.2.fragment = false) : (s.withParts parts).Undivided := by
  induction parts generalizing s with
  | nil => exact h
  | cons part rest ih =>
    exact ih ((h.withJoins part.1.type.joins).withPredicate (hp part (List.mem_cons_self ..)))
      fun part hpart => hp part (List.mem_cons_of_mem _ hpart)

theorem Undivided.whereText {s : Statement} (h : s.Undivided) :
    s.whereText = " AND ".intercalate s.predicates := by
  have hgrouped : ∀ condition ∈ s.predicates, s.grouped condition = condition := by
    intro condition hmem
    rw [grouped, h condition hmem, Bool.and_false, if_neg Bool.false_ne_true]
  rw [Statement.whereText, List.map_congr_left hgrouped, List.map_id']

theorem Undivided.sql {s : Statement} (h : s.Undivided) :
    s.sql = ({ s with predicates := [] } : Statement).sql ++
      (if s.predicates = [] then "" else " WHERE " ++ " AND ".intercalate s.predicates) := by
  rw [Statement.sql, h.whereText, Statement.sql, if_pos rfl, String.append_empty]
  rfl

end Statement

namespace Builtin
open Fragment

theorem exists_undivided_of_contribute {op : Builtin} {column : String} (hcol : column ≠ "")
    {values : List Value} {clock : Clock} {s t : Statement}
    (hrun : (Operator.builtin op).contribute column values clock s = .ok () t) :
    ∃ condition, t.predicates = s.predicates ++ [condition] ∧ hasTopLevelOr condition = false := by
  rw [contribute_condition op hcol] at hrun
  obtain ⟨p, hp, rfl⟩ := Statement.exists_of_append_eq_ok hrun
  obtain ⟨hmet, _, hclause⟩ := Operator.outcome_eq_ok hp
  have hshape := shape_of_clause hmet hclause
  exact ⟨s.numbered p.fragment, rfl, s.hasTopLevelOr_numbered hshape.hasTopLevelOr_eq_false⟩

theorem exists_contribute_of_accepts {op : Builtin} {column : String} (hcol : column ≠ "")
    {values : List Value} (hacc : (Operator.builtin op).accepts values) {clock : Clock}
    (hcal : ¬op.LeavesCalendar (op.arity.prepare values) clock)
    (hmid : ∀ n ∈ op.midnights (op.arity.prepare values) clock, clock.offset.HasMidnight n)
    (s : Statement) : ∃ t, (Operator.builtin op).contribute column values clock s = .ok () t := by
  obtain ⟨hmet, hnone⟩ := (op.accepts_iff values).mp hacc
  rw [contribute_condition op hcol, condition, outcome_of_accepts hacc]
  rcases clause_cases hmet hnone hcal s.dialect column with ⟨_, p, hp⟩ | ⟨⟨n, hn, hnot⟩, _⟩
  · exact ⟨s.withPredicate p, by rw [hp]; rfl⟩
  · exact absurd (hmid n hn) hnot

end Builtin

namespace Chain
open Fragment

theorem undivided_of_assemble {chain : Chain} (hb : chain.IsBuiltin) {table : String}
    {dialect : Dialect} {clock : Clock} {s : Statement}
    (h : chain.assemble table dialect clock = .ok s) : s.Undivided := by
  obtain ⟨parts, rfl, hshape⟩ := exists_parts_of_assemble hb h
  exact (Statement.undivided_empty table dialect).withParts fun part hpart =>
    (hshape part hpart).hasTopLevelOr_eq_false

/-- The condition of a built-in operator on a column of whatever name is no disjunction at the top, and
accepted values have one. Behind the keyword of a query of built-in filters stand just their
conditions. -/
theorem ungrouped_conditions :
    (∀ (op : Builtin) (column : String) (values : List Value) (clock : Clock) (s : Statement),
        column ≠ "" →
        (∀ t, (Operator.builtin op).contribute column values clock s = .ok () t →
          ∃ condition, t.predicates = s.predicates ++ [condition] ∧
            hasTopLevelOr condition = false) ∧
        ((Operator.builtin op).accepts values →
          ¬op.LeavesCalendar (op.arity.prepare values) clock →
          (∀ n ∈ op.midnights (op.arity.prepare values) clock, clock.offset.HasMidnight n) →
          ∃ t, (Operator.builtin op).contribute column values clock s = .ok () t)) ∧
      ∀ chain : Chain, chain.IsBuiltin → ∀ (table : String) (dialect : Dialect) (clock : Clock)
        (q : CompiledQuery), chain.compile table dialect clock = .ok q →
        ∃ s, chain.assemble table dialect clock = .ok s ∧ q = s.compiled ∧
          (∀ condition ∈ s.predicates, hasTopLevelOr condition = false) ∧
          q.sql = ({ s with predicates := [] } : Statement).sql ++
            (if s.predicates = [] then "" else " WHERE " ++ " AND ".intercalate s.predicates) := by
  constructor
  · intro op column values clock s hcol
    exact ⟨fun t hrun => Builtin.exists_undivided_of_contribute hcol hrun,
      fun hacc hcal hmid => Builtin.exists_contribute_of_accepts hcol hacc hcal hmid s⟩
  · intro chain hb table dialect clock q hq
    obtain ⟨s, hs, rfl⟩ := exists_assemble_of_compile hq
    have hundivided := undivided_of_assemble hb hs
    exact ⟨s, hs, rfl, hundivided, hundivided.sql⟩

def looselyNamed : Chain :=
  let type (column : String) : FilterType :=
    ⟨"loose", none, column, [], [], none, false, true, false⟩
  ⟨[⟨⟨2⟩, { type := type "a or (b", default := .builtin .notEqual, values := [.int 2] }⟩,
    ⟨⟨1⟩, { type := type "x\x60) or 'y", default := .builtin .absent, values := [] }⟩]⟩

theorem isBuiltin_looselyNamed : looselyNamed.IsBuiltin := by
  intro f hf
  simp only [looselyNamed, filters, List.map_cons, List.map_nil, List.mem_cons, List.not_mem_nil,
    or_false] at hf
  rcases hf with rfl | rfl
  · exact ⟨.notEqual, rfl⟩
  · exact ⟨.absent, rfl⟩

def looseQuery : CompiledQuery :=
  ⟨"SELECT * FROM entries WHERE \x60x\x60\x60) or 'y\x60 IS NULL" ++
      " AND (\x60a or (b\x60 IS NULL OR \x60a or (b\x60 NOT IN (?))",
    [.int 2]⟩

theorem compile_looselyNamed : looselyNamed.compile "entries" .mysql noon = .ok looseQuery := by
  decide +kernel

theorem ungrouped_conditions_loose :
    (∃ t condition, (Operator.builtin .notEqual).contribute "a or (b" [.int 2] noon
        (Statement.empty "entries" .mysql) = .ok () t ∧
      t.predicates = [condition] ∧ hasTopLevelOr condition = false) ∧
    ∃ s, looselyNamed.assemble "entries" .mysql noon = .ok s ∧ looseQuery = s.compiled ∧
      (∀ condition ∈ s.predicates, hasTopLevelOr condition = false) ∧
      looseQuery.sql = ({ s with predicates := [] } : Statement).sql ++
        (if s.predicates = [] then "" else " WHERE " ++ " AND ".intercalate s.predicates) := by
  constructor
  · have hnamed : "a or (b" ≠ "" := by decide
    have hcal : ¬Builtin.LeavesCalendar .notEqual [.int 2] noon := by
      rintro (hnow | ⟨hop, _⟩)
      · exact absurd hnow (by decide +kernel)
      · cases hop
    obtain ⟨hadds, hruns⟩ := ungrouped_conditions.1 .notEqual "a or (b" [.int 2] noon
      (Statement.empty "entries" .mysql) hnamed
    obtain ⟨t, hrun⟩ := hruns (by decide) hcal fun n hn => (nomatch hn)
    obtain ⟨condition, hpredicates, hnone⟩ := hadds t hrun
    exact ⟨t, condition, hrun, hpredicates, hnone⟩
  · exact ungrouped_conditions.2 looselyNamed isBuiltin_looselyNamed "entries" .mysql noon looseQuery
      compile_looselyNamed

end Chain
end ReportFilters
