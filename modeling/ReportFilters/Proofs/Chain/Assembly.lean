import ReportFilters.Chain
import ReportFilters.Proofs.Operator.Clauses

/-! Assembling a chain. Filters whose operators have clauses are put into a statement one by one,
each by its joins and the one condition it has in the statement's dialect; unbound filters are
passed over. The assembly succeeds when every bound filter has a condition, and otherwise fails as
the lowest of the others does. -/

namespace ReportFilters

namespace Statement

def withJoins (s : Statement) (joins : List Join) : Statement := joins.foldl addJoin s

@[simp] theorem withJoins_nil (s : Statement) : s.withJoins [] = s := rfl

@[simp] theorem withJoins_cons (s : Statement) (join : Join) (rest : List Join) :
    s.withJoins (join :: rest) = (s.addJoin join).withJoins rest := rfl

theorem withJoins_induction {P : Statement → Prop} (h : ∀ s join, P s → P (s.addJoin join))
    {s : Statement} (hs : P s) (joins : List Join) : P (s.withJoins joins) := by
  induction joins generalizing s with
  | nil => exact hs
  | cons join rest ih => exact ih (h s join hs)

structure SameButJoins (s t : Statement) : Prop where
  dialect : t.dialect = s.dialect
  table : t.table = s.table
  columns : t.columns = s.columns
  predicates : t.predicates = s.predicates
  params : t.params = s.params

theorem sameButJoins_withJoins (s : Statement) (joins : List Join) :
    SameButJoins s (s.withJoins joins) := by
  refine withJoins_induction (P := SameButJoins s) ?_ ⟨rfl, rfl, rfl, rfl, rfl⟩ joins
  intro t join h
  unfold addJoin
  split
  · exact ⟨h.dialect, h.table, h.columns, h.predicates, h.params⟩
  · exact h

@[simp] theorem dialect_withJoins (s : Statement) (joins : List Join) :
    (s.withJoins joins).dialect = s.dialect := (s.sameButJoins_withJoins joins).dialect

@[simp] theorem table_withJoins (s : Statement) (joins : List Join) :
    (s.withJoins joins).table = s.table := (s.sameButJoins_withJoins joins).table

@[simp] theorem columns_withJoins (s : Statement) (joins : List Join) :
    (s.withJoins joins).columns = s.columns := (s.sameButJoins_withJoins joins).columns

@[simp] theorem predicates_withJoins (s : Statement) (joins : List Join) :
    (s.withJoins joins).predicates = s.predicates := (s.sameButJoins_withJoins joins).predicates

@[simp] theorem params_withJoins (s : Statement) (joins : List Join) :
    (s.withJoins joins).params = s.params := (s.sameButJoins_withJoins joins).params

def withParts (s : Statement) (parts : List (Filter × Predicate)) : Statement :=
  parts.foldl (fun s part => (s.withJoins part.1.type.joins).withPredicate part.2) s

@[simp] theorem withParts_nil (s : Statement) : s.withParts [] = s := rfl

@[simp] theorem withParts_cons (s : Statement) (part : Filter × Predicate)
    (rest : List (Filter × Predicate)) : s.withParts (part :: rest) =
      ((s.withJoins part.1.type.joins).withPredicate part.2).withParts rest := rfl

theorem frame_withParts (s : Statement) (parts : List (Filter × Predicate)) :
    (s.withParts parts).table = s.table ∧ (s.withParts parts).dialect = s.dialect ∧
      (s.withParts parts).columns = s.columns := by
  induction parts generalizing s with
  | nil => exact ⟨rfl, rfl, rfl⟩
  | cons part rest ih => simpa using ih ((s.withJoins part.1.type.joins).withPredicate part.2)

end Statement

namespace Filter

def isBound (f : Filter) : Bool := !f.column.isEmpty

def outcome (f : Filter) (clause : Clause) (dialect : Dialect) (clock : Clock) :
    Except Failure Predicate :=
  (f.operator.outcome clause dialect f.column f.values clock).mapError (·.withFilter f.name)

theorem contribute_of_unbound {f : Filter} (h : f.isBound = false) (clock : Clock) (s : Statement) :
    f.contribute clock s = .ok () s := by
  have hcol : f.column.isEmpty = true := by simpa [isBound] using h
  rw [contribute, if_pos hcol]
  rfl

theorem contribute_of_column {f : Filter} (h : ¬f.column.isEmpty = true) (clock : Clock) (s : Statement) :
    f.contribute clock s =
      match f.operator.contribute f.column f.values clock (s.withJoins f.type.joins) with
      | .ok _ t => .ok () t
      | .error failure t => .error (failure.withFilter f.name) t := by
  rw [contribute, if_neg h]
  simp only [bind_apply, modify_apply, adaptExcept_apply, Statement.withJoins]
  cases f.operator.contribute f.column f.values clock (f.type.joins.foldl Statement.addJoin s) <;> rfl

theorem contribute_run {f : Filter} {clause : Clause} (h : f.operator.Appends clause)
    (hb : f.isBound) (clock : Clock) (s : Statement) :
    f.contribute clock s
      = (s.withJoins f.type.joins).append (f.outcome clause s.dialect clock) := by
  have hcol : ¬f.column.isEmpty = true := by simpa [isBound] using hb
  have hne : f.column ≠ "" := by simpa using hcol
  rw [contribute_of_column hcol, Operator.contribute_run h hne, Statement.dialect_withJoins, outcome]
  cases f.operator.outcome clause s.dialect f.column f.values clock <;> rfl

end Filter

namespace Chain

variable {clause : Filter → Clause} {clock : Clock}

def Settled (clause : Filter → Clause) (dialect : Dialect) (clock : Clock) (fs : List Filter)
    (parts : List (Filter × Predicate)) : Prop :=
  parts.map Prod.fst = fs ∧ ∀ part ∈ parts, part.1.outcome (clause part.1) dialect clock = .ok part.2

/-- Of these filters, the first bound one that has no condition fails in this way. -/
def Fails (clause : Filter → Clause) (dialect : Dialect) (clock : Clock) (fs : List Filter)
    (failure : Failure) : Prop :=
  ∃ below f above, fs = below ++ f :: above ∧
    (∀ g ∈ below, g.isBound → ∃ p, g.outcome (clause g) dialect clock = .ok p) ∧
    f.isBound ∧ f.outcome (clause f) dialect clock = .error failure

theorem Fails.cons {dialect : Dialect} {fs : List Filter} {failure : Failure}
    (h : Fails clause dialect clock fs failure) {f : Filter}
    (hf : f.isBound → ∃ p, f.outcome (clause f) dialect clock = .ok p) :
    Fails clause dialect clock (f :: fs) failure := by
  obtain ⟨below, g, above, rfl, hbelow, hg⟩ := h
  exact ⟨f :: below, g, above, rfl, List.forall_mem_cons.mpr ⟨hf, hbelow⟩, hg⟩

theorem forM_run_cons_of_unbound {f : Filter} {fs : List Filter} (hb : f.isBound = false)
    (s : Statement) :
    ((f :: fs).forM fun f => f.contribute clock) s = (fs.forM fun f => f.contribute clock) s := by
  rw [forM_cons_apply, Filter.contribute_of_unbound hb]

theorem forM_run_cons {f : Filter} {fs : List Filter} (h : f.operator.Appends (clause f))
    (hb : f.isBound) (s : Statement) :
    ((f :: fs).forM fun f => f.contribute clock) s =
      match f.outcome (clause f) s.dialect clock with
      | .ok p => (fs.forM fun f => f.contribute clock) ((s.withJoins f.type.joins).withPredicate p)
      | .error failure => .error failure (s.withJoins f.type.joins) := by
  rw [forM_cons_apply, Filter.contribute_run h hb]
  cases f.outcome (clause f) s.dialect clock <;> rfl

theorem forM_run {fs : List Filter} (h : ∀ f ∈ fs, f.operator.Appends (clause f)) (s : Statement) :
    (∃ parts, Settled clause s.dialect clock (fs.filter Filter.isBound) parts ∧
        (fs.forM fun f => f.contribute clock) s = .ok () (s.withParts parts)) ∨
      ∃ failure t, (fs.forM fun f => f.contribute clock) s = .error failure t ∧
        Fails clause s.dialect clock fs failure := by
  -- the statement changes with each filter, its dialect does not, and conditions hang on that only
  induction fs generalizing s with
  | nil => exact .inl ⟨[], ⟨rfl, by simp⟩, rfl⟩
  | cons f fs ih =>
    have hf := h f (List.mem_cons_self ..)
    have hfs : ∀ g ∈ fs, g.operator.Appends (clause g) := fun g hg => h g (List.mem_cons_of_mem _ hg)
    cases hb : f.isBound with
    | false =>
      rw [forM_run_cons_of_unbound hb, List.filter_cons_of_neg (by simp [hb])]
      refine (ih hfs s).imp_right ?_
      rintro ⟨failure, t, hrun, hfails⟩
      exact ⟨failure, t, hrun, hfails.cons (by simp [hb])⟩
    | true =>
      rw [forM_run_cons hf hb, List.filter_cons_of_pos hb]
      cases hout : f.outcome (clause f) s.dialect clock with
      | error failure => exact .inr ⟨failure, _, rfl, [], f, fs, rfl, by simp, hb, hout⟩
      | ok p =>
        have hsame : ((s.withJoins f.type.joins).withPredicate p).dialect = s.dialect := by simp
        rcases ih hfs ((s.withJoins f.type.joins).withPredicate p) with
          ⟨parts, hparts, hrun⟩ | ⟨failure, t, hrun, hfails⟩
        · rw [hsame] at hparts
          refine .inl ⟨(f, p) :: parts, ⟨by simp [hparts.1], ?_⟩, hrun⟩
          intro part hpart
          rcases List.mem_cons.mp hpart with rfl | hpart
          · exact hout
          · exact hparts.2 part hpart
        · rw [hsame] at hfails
          exact .inr ⟨failure, t, hrun, hfails.cons fun _ => ⟨p, hout⟩⟩

theorem compile_of_ok {chain : Chain} {table : String} {dialect : Dialect} {s : Statement}
    (h : chain.assemble table dialect clock = .ok s) :
    chain.compile table dialect clock = .ok s.compiled := by
  rw [compile, h]
  rfl

theorem compile_of_error {chain : Chain} {table : String} {dialect : Dialect}
    {failure : Failure} (h : chain.assemble table dialect clock = .error failure) :
    chain.compile table dialect clock = .error failure := by
  rw [compile, h]
  rfl

theorem exists_assemble_of_compile {chain : Chain} {table : String} {dialect : Dialect}
    {q : CompiledQuery} (h : chain.compile table dialect clock = .ok q) :
    ∃ s, chain.assemble table dialect clock = .ok s ∧ q = s.compiled := by
  rw [compile] at h
  cases hs : chain.assemble table dialect clock with
  | error failure =>
    rw [hs] at h
    cases h
  | ok s =>
    rw [hs] at h
    exact ⟨s, rfl, (Except.ok.inj h).symm⟩

theorem find?_isValid (chain : Chain) :
    chain.bottomUp.find? (fun f => !f.isValid) = none ↔ chain.isValid := by
  simp [bottomUp, isValid]

theorem assemble_cases {chain : Chain} (h : ∀ f ∈ chain.filters, f.operator.Appends (clause f))
    (hv : chain.isValid) (table : String) (dialect : Dialect) (clock : Clock) :
    (∃ parts, Settled clause dialect clock (chain.bottomUp.filter Filter.isBound) parts ∧
        chain.assemble table dialect clock = .ok ((Statement.empty table dialect).withParts parts)) ∨
      ∃ failure, chain.assemble table dialect clock = .error failure ∧
        Fails clause dialect clock chain.bottomUp failure := by
  have hfs : ∀ f ∈ chain.bottomUp, f.operator.Appends (clause f) := fun f hf =>
    h f (List.mem_reverse.mp hf)
  rw [assemble, (find?_isValid chain).mpr hv]
  rcases forM_run hfs (Statement.empty table dialect) with
    ⟨parts, hparts, hrun⟩ | ⟨failure, t, hrun, hfails⟩
  · exact .inl ⟨parts, hparts, by simp only [EStateM.run, hrun]⟩
  · exact .inr ⟨failure, by simp only [EStateM.run, hrun], hfails⟩

end Chain
end ReportFilters
