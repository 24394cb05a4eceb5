import ReportFilters.Proofs.Chain.Assembly
import ReportFilters.Proofs.Sql.Alignment

/-! Queries of chains of built-in operators. Whatever tables, columns and joins are called, the text
of the query closes all its quotes and has one mark for each parameter, in their order. -/

namespace ReportFilters

namespace Operator

/-- Known for built-in operators only. -/
def clause : Operator → Clause
  | builtin op => op.clause
  | custom _ => fun _ _ _ _ => .error .offCalendar

def IsBuiltin (op : Operator) : Prop := ∃ b : Builtin, op = builtin b

theorem IsBuiltin.appends {op : Operator} (h : op.IsBuiltin) : op.Appends op.clause := by
  obtain ⟨b, rfl⟩ := h
  exact b.appends

end Operator

namespace Filter

theorem outcome_eq_ok {f : Filter} {clause : Clause} {dialect : Dialect} {clock : Clock}
    {p : Predicate} (h : f.outcome clause dialect clock = .ok p) :
    f.operator.arity.isMetBy (f.operator.prepare f.values).length ∧ p.isMatched ∧
      clause dialect f.column (f.operator.prepare f.values) clock = .ok p := by
  rw [outcome, mapError_eq_ok] at h
  exact Operator.outcome_eq_ok h

theorem shape_outcome {f : Filter} (hb : f.operator.IsBuiltin) {dialect : Dialect} {clock : Clock}
    {p : Predicate} (h : f.outcome f.operator.clause dialect clock = .ok p) :
    Builtin.Shape (dialect.quoteQualified f.column) p := by
  obtain ⟨op, hop⟩ := hb
  obtain ⟨hmet, _, hclause⟩ := outcome_eq_ok h
  rw [hop] at hmet hclause
  exact Builtin.shape_of_clause hmet hclause

end Filter

namespace Statement

theorem Aligned.withJoins {s : Statement} (h : Aligned s) (joins : List Join) :
    Aligned (s.withJoins joins) := by
  rw [Aligned, predicates_withJoins, dialect_withJoins, params_withJoins]
  exact h

theorem Aligned.withParts {s : Statement} (h : Aligned s) {parts : List (Filter × Predicate)}
    (hp : ∀ part ∈ parts, Fragment.Tidy part.2.fragment.toList part.2.params.length) :
    Aligned (s.withParts parts) := by
  induction parts generalizing s with
  | nil => exact h
  | cons part rest ih =>
    have hpart := hp part (List.mem_cons_self ..)
    exact ih ((h.withJoins part.1.type.joins).withPredicate hpart)
      fun part hpart => hp part (List.mem_cons_of_mem _ hpart)

end Statement

namespace Chain
open Fragment

def IsBuiltin (chain : Chain) : Prop := ∀ f ∈ chain.filters, f.operator.IsBuiltin

theorem isValid_of_assemble {chain : Chain} {table : String} {dialect : Dialect} {clock : Clock}
    {s : Statement} (h : chain.assemble table dialect clock = .ok s) : chain.isValid := by
  rw [← find?_isValid]
  rw [assemble] at h
  split at h
  · cases h
  · assumption

theorem exists_parts_of_assemble {chain : Chain} (hb : chain.IsBuiltin) {table : String}
    {dialect : Dialect} {clock : Clock} {s : Statement}
    (h : chain.assemble table dialect clock = .ok s) :
    ∃ parts, s = (Statement.empty table dialect).withParts parts ∧
      ∀ part ∈ parts, Builtin.Shape (dialect.quoteQualified part.1.column) part.2 := by
  have hv := isValid_of_assemble h
  rcases assemble_cases (fun f hf => (hb f hf).appends) hv table dialect clock with
    ⟨parts, hparts, hs⟩ | ⟨failure, hs, _⟩
  · rw [h] at hs
    refine ⟨parts, Except.ok.inj hs, fun part hpart => ?_⟩
    have hmem : part.1 ∈ chain.bottomUp.filter Filter.isBound := by
      rw [← hparts.1]
      exact List.mem_map_of_mem hpart
    have hfilter : part.1 ∈ chain.filters := List.mem_reverse.mp (List.mem_of_mem_filter hmem)
    exact Filter.shape_outcome (hb _ hfilter) (hparts.2 part hpart)
  · rw [h] at hs
    cases hs

theorem aligned_of_assemble {chain : Chain} (hb : chain.IsBuiltin) {table : String}
    {dialect : Dialect} {clock : Clock} {s : Statement}
    (h : chain.assemble table dialect clock = .ok s) : s.Aligned ∧ s.dialect = dialect := by
  obtain ⟨parts, rfl, hshape⟩ := exists_parts_of_assemble hb h
  refine ⟨(Statement.aligned_empty table dialect).withParts fun part hpart => ?_,
    (Statement.frame_withParts _ parts).2.1⟩
  exact (hshape part hpart).tidy (dialect.bare_quoteQualified part.1.column)

theorem marks_of_compile {chain : Chain} (hb : chain.IsBuiltin) {table : String}
    {dialect : Dialect} {clock : Clock} {q : CompiledQuery}
    (h : chain.compile table dialect clock = .ok q) :
    q.sql.toList.foldl quoteAfter none = none ∧
      marks none q.sql.toList = placeholders dialect 1 q.params.length := by
  obtain ⟨s, hs, rfl⟩ := exists_assemble_of_compile h
  obtain ⟨haligned, hdialect⟩ := aligned_of_assemble hb hs
  have hreads := haligned.reads_sql
  rw [hdialect] at hreads
  exact ⟨hreads.closed, hreads.marks_eq⟩

def oddlyNamed : Chain :=
  let join : Join := ⟨"it's", "?", "\x60t", "$2"⟩
  let type : FilterType :=
    ⟨"odd", none, "a\"?.$1\x60b", [join], [], none, false, true, false⟩
  ⟨[⟨⟨2⟩, { type, default := .builtin .notEqual, values := [.text "?", .null, .int 2] }⟩,
    ⟨⟨1⟩, { type, default := .builtin .contains, values := [.text "$3"] }⟩]⟩

def noon : Clock :=
  ⟨⟨63851371200, 0, .utc, by decide, by decide, by decide⟩, .monday⟩

def oddQuery : CompiledQuery :=
  ⟨"SELECT * FROM \"entries?\" LEFT OUTER JOIN \"it's\" ON \"it's\".\"?\" = \"\x60t\".\"$2\"" ++
      " WHERE \"a\"\"?\".\"$1\x60b\" LIKE $1 ESCAPE '!'" ++
      " AND (\"a\"\"?\".\"$1\x60b\" IS NULL OR \"a\"\"?\".\"$1\x60b\" NOT IN ($2, $3))",
    [.text "%$3%", .text "?", .int 2]⟩

theorem isBuiltin_oddlyNamed : oddlyNamed.IsBuiltin := by
  intro f hf
  simp only [oddlyNamed, filters, List.map_cons, List.map_nil, List.mem_cons, List.not_mem_nil,
    or_false] at hf
  rcases hf with rfl | rfl
  · exact ⟨.notEqual, rfl⟩
  · exact ⟨.contains, rfl⟩

theorem compile_oddlyNamed : oddlyNamed.compile "entries?" .postgresql noon = .ok oddQuery := by
  decide +kernel

theorem marks_of_oddQuery :
    oddlyNamed.compile "entries?" .postgresql noon = .ok oddQuery ∧
      oddQuery.sql.toList.foldl quoteAfter none = none ∧
      marks none oddQuery.sql.toList = [['$', '1'], ['$', '2'], ['$', '3']] := by
  have hmarks := marks_of_compile isBuiltin_oddlyNamed compile_oddlyNamed
  exact ⟨compile_oddlyNamed, hmarks.1, hmarks.2.trans (by decide +kernel)⟩

end Chain
end ReportFilters
