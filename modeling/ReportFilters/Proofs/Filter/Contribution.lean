import ReportFilters.Catalog.CostQuery
import ReportFilters.Proofs.Chain.Alignment

/-! What a contribution leaves alone. A built-in operator adds one condition with parameters of its own
or nothing at all, and nothing when it fails. A filter that fails adds no condition either, unless its
operator was supplied with a contributor that did. -/

namespace ReportFilters

namespace Arity

theorem not_isNull_of_mem_prepare {arity : Arity} {values : List Value} {v : Value}
    (h : v ∈ arity.prepare values) : v.isNull = false := by
  have hpresent : v ∈ values.filter fun v => !v.isNull := by
    cases arity with
    | fixed count => exact List.mem_of_mem_take h
    | variadic => exact h
  simpa using (List.mem_filter.mp hpresent).2

end Arity

namespace Builtin

def ArePresent (values : List Value) : Prop := ∀ v ∈ values, v.isNull = false

theorem arePresent_singleton {v : Value} (h : v.isNull = false) : ArePresent [v] := by
  simpa [ArePresent] using h

theorem arePresent_pair {v w : Value} (hv : v.isNull = false) (hw : w.isNull = false) :
    ArePresent [v, w] := by
  simp [ArePresent, hv, hw]

section
variable {column comparison : String} {clock : Clock} {values : List Value} {p : Predicate}

theorem not_isNull_of_boundary {day shift : Int} {v : Value} (h : boundary clock day shift = .ok v) :
    v.isNull = false := by
  rw [boundary] at h
  split at h
  · cases h
    rfl
  · cases h

theorem not_isNull_of_instantAt {index : Nat} {v : Value} (h : instantAt clock values index = .ok v) :
    v.isNull = false := by
  rw [instantAt] at h
  cases hread : usable (·.instant? clock.offset) values index with
  | error fault =>
    rw [hread] at h
    cases h
  | ok t =>
    rw [hread] at h
    cases h
    rfl

theorem arePresent_of_dayRange {day first past : Int}
    (h : dayRange column clock day first past = .ok p) : ArePresent p.params := by
  obtain ⟨start, hstart, h⟩ := exists_of_bind_eq_ok h
  obtain ⟨stop, hstop, h⟩ := exists_of_bind_eq_ok h
  cases h
  exact arePresent_pair (not_isNull_of_boundary hstart) (not_isNull_of_boundary hstop)

theorem arePresent_of_fromBoundary {shift : Int}
    (h : fromBoundary column comparison clock shift = .ok p) : ArePresent p.params := by
  obtain ⟨bound, hbound, h⟩ := exists_of_bind_eq_ok h
  cases h
  exact arePresent_singleton (not_isNull_of_boundary hbound)

theorem arePresent_of_predicate {op : Builtin} (hvalues : ArePresent values)
    (h : op.predicate column values clock = .ok p) : ArePresent p.params := by
  cases op with
  | equal | notEqual | lessOrEqual | greaterOrEqual =>
    cases h
    exact hvalues
  | empty | any | present | absent =>
    cases h
    exact fun _ hv => nomatch hv
  | zero | opened | closed =>
    cases h
    exact arePresent_singleton rfl
  | contains | notContains | numericEqual =>
    obtain ⟨_, _, h⟩ := exists_of_bind_eq_ok h
    cases h
    exact arePresent_singleton rfl
  | today | thisWeek => exact arePresent_of_dayRange h
  | daysAhead | daysAgo =>
    obtain ⟨_, _, h⟩ := exists_of_bind_eq_ok h
    exact arePresent_of_dayRange h
  | beforeDaysAhead | beforeDaysAgo | afterDaysAhead | afterDaysAgo =>
    obtain ⟨_, _, h⟩ := exists_of_bind_eq_ok h
    exact arePresent_of_fromBoundary h
  | onDate =>
    obtain ⟨_, _, h⟩ := exists_of_bind_eq_ok h
    split at h
    · exact arePresent_of_dayRange h
    · cases h
  | beforeDate | afterDate =>
    obtain ⟨t, ht, h⟩ := exists_of_bind_eq_ok h
    cases h
    exact arePresent_singleton (not_isNull_of_instantAt ht)
  | betweenDates =>
    obtain ⟨start, hstart, h⟩ := exists_of_bind_eq_ok h
    obtain ⟨stop, hstop, h⟩ := exists_of_bind_eq_ok h
    cases h
    exact arePresent_pair (not_isNull_of_instantAt hstart) (not_isNull_of_instantAt hstop)

end

section
variable {op : Builtin} {column : String} {values : List Value} {clock : Clock} {s t : Statement}

theorem contribute_of_empty (op : Builtin) (values : List Value) (clock : Clock) (s : Statement) :
    (Operator.builtin op).contribute "" values clock s = .ok () s := rfl

theorem eq_of_contribute_eq_error {failure : Failure}
    (h : (Operator.builtin op).contribute column values clock s = .error failure t) : t = s := by
  by_cases hcol : column = ""
  · rw [hcol, contribute_of_empty] at h
    cases h
  · rw [contribute_condition op hcol] at h
    exact Statement.eq_of_append_eq_error h

theorem exists_withPredicate_of_contribute (hcol : column ≠ "")
    (h : (Operator.builtin op).contribute column values clock s = .ok () t) :
    ∃ p, p.isMatched ∧ ArePresent p.params ∧ t = s.withPredicate p := by
  rw [contribute_condition op hcol] at h
  obtain ⟨p, hp, rfl⟩ := Statement.exists_of_append_eq_ok h
  obtain ⟨_, hmatched, hclause⟩ := Operator.outcome_eq_ok hp
  have hprepared : ArePresent ((Operator.builtin op).prepare values) :=
    fun _ => Arity.not_isNull_of_mem_prepare
  exact ⟨p, hmatched, arePresent_of_predicate hprepared (clause_eq_ok_iff.mp hclause).2, rfl⟩

end

/-- A built-in operator that fails leaves the statement as it was. One that succeeds leaves it alone for
an empty column, and for any other appends one condition with as many parameters as it has markers,
none of them null. -/
theorem contribute_adds (op : Builtin) (column : String) (values : List Value) (clock : Clock)
    (s : Statement) :
    match (Operator.builtin op).contribute column values clock s with
    | .error _ t => t = s
    | .ok _ t => column = "" ∧ t = s ∨ column ≠ "" ∧
        ∃ p : Predicate, p.isMatched ∧ (∀ v ∈ p.params, v.isNull = false) ∧
          t = { s with
            predicates := s.predicates ++ [s.numbered p.fragment]
            params := s.params ++ p.params } := by
  cases hrun : (Operator.builtin op).contribute column values clock s with
  | error failure t => exact eq_of_contribute_eq_error hrun
  | ok _ t =>
    by_cases hcol : column = ""
    · rw [hcol, contribute_of_empty] at hrun
      cases hrun
      exact .inl ⟨hcol, rfl⟩
    · exact .inr ⟨hcol, exists_withPredicate_of_contribute hcol hrun⟩

end Builtin

namespace Statement

theorem withJoins_eq_self {s : Statement} {joins : List Join}
    (h : ∀ join ∈ joins, join.table = s.table ∨ join ∈ s.joins) : s.withJoins joins = s := by
  induction joins with
  | nil => rfl
  | cons join rest ih =>
    have hunwanted : s.wantsJoin join = false := by
      rw [wantsJoin, Bool.and_eq_false_iff]
      exact (h join (List.mem_cons_self ..)).imp (by simp) (by simp)
    rw [withJoins_cons, addJoin, hunwanted]
    exact ih fun join hjoin => h join (List.mem_cons_of_mem _ hjoin)

theorem exists_joins_withJoins (s : Statement) (joins : List Join) :
    ∃ more ⊆ joins, (s.withJoins joins).joins = s.joins ++ more := by
  induction joins generalizing s with
  | nil => exact ⟨[], List.Subset.refl _, (List.append_nil _).symm⟩
  | cons join rest ih =>
    obtain ⟨more, hmore, hjoins⟩ := ih (s.addJoin join)
    rw [withJoins_cons, hjoins, addJoin]
    split
    · exact ⟨join :: more, List.cons_subset_cons join hmore, by simp⟩
    · exact ⟨more, List.subset_cons_of_subset join hmore, rfl⟩

end Statement

namespace Operator

theorem cases_of_contribute_eq_error {op : Operator} {column : String} {values : List Value}
    {clock : Clock} {s t : Statement} {failure : Failure}
    (h : op.contribute column values clock s = .error failure t) :
    t = s ∨ ∃ c, op = .custom c ∧ c.contributor column (op.prepare values) clock s = .error failure t := by
  cases op with
  | builtin op => exact .inl (Builtin.eq_of_contribute_eq_error h)
  | custom c =>
    rw [contribute] at h
    split at h
    · cases h
    · split at h
      · exact .inr ⟨c, rfl, h⟩
      · cases h
        exact .inl rfl

end Operator

namespace Filter

theorem exists_contribute_of_error {f : Filter} {clock : Clock} {s t : Statement} {failure : Failure}
    (h : f.contribute clock s = .error failure t) :
    ∃ reason, f.operator.contribute f.column f.values clock (s.withJoins f.type.joins) = .error reason t := by
  by_cases hcol : f.column.isEmpty = true
  · rw [contribute, if_pos hcol] at h
    cases h
  · rw [contribute_of_column hcol] at h
    split at h
    · cases h
    · cases h
      exact ⟨_, ‹_›⟩

/-- A filter that fails adds no condition and no parameter, and no joins but such of its type, unless it
is a supplied contributor that failed, to which the conditions and parameters are handed as they were.
With no join to add it leaves the statement as it was. -/
theorem sameButJoins_of_contribute {f : Filter} {clock : Clock} {s t : Statement} {failure : Failure}
    (h : f.contribute clock s = .error failure t) :
    (∃ c reason handed, f.operator = .custom c ∧ s.SameButJoins handed ∧
        c.contributor f.column (f.operator.prepare f.values) clock handed = .error reason t) ∨
      s.SameButJoins t ∧ (∃ more ⊆ f.type.joins, t.joins = s.joins ++ more) ∧
        ((∀ join ∈ f.type.joins, join.table = s.table ∨ join ∈ s.joins) → t = s ∧ t.sql = s.sql) := by
  obtain ⟨reason, hrun⟩ := exists_contribute_of_error h
  have hsame := s.sameButJoins_withJoins f.type.joins
  rcases Operator.cases_of_contribute_eq_error hrun with rfl | ⟨c, hc, hfailed⟩
  · refine .inr ⟨hsame, s.exists_joins_withJoins f.type.joins, fun hjoins => ?_⟩
    rw [Statement.withJoins_eq_self hjoins]
    exact ⟨rfl, rfl⟩
  · exact .inl ⟨c, reason, _, hc, hsame, hfailed⟩

def leftBy? (f : Filter) (clock : Clock) (s : Statement) : Option Statement :=
  match f.contribute clock s with
  | .ok _ _ => none
  | .error _ t => some t

theorem exists_error_of_leftBy? {f : Filter} {clock : Clock} {s t : Statement}
    (h : f.leftBy? clock s = some t) : ∃ failure, f.contribute clock s = .error failure t := by
  rw [leftBy?] at h
  split at h
  · cases h
  · cases h
    exact ⟨_, ‹_›⟩

def assignedToNobody? : Option Filter :=
  CostQuery.catalog.toOption.bind fun catalog => (catalog.newFilter CostQuery.assignedToId).toOption

def joined : Statement :=
  ((Statement.empty CostQuery.entriesTable .postgresql).addJoin CostQuery.issueJoin).withPredicate
    ⟨"issues.tracker_id = ?", [.int 1]⟩

theorem sameButJoins_assignedToNobody : ∃ f failure t, assignedToNobody? = some f ∧
    f.contribute Chain.noon joined = .error failure t ∧
    (∀ join ∈ f.type.joins, join.table = joined.table ∨ join ∈ joined.joins) ∧ t = joined := by
  have hrun : assignedToNobody?.bind (fun f => (f.leftBy? Chain.noon joined).map fun _ =>
      (f.operator.isCustom, f.type.joins)) = some (false, [CostQuery.issueJoin]) := by
    decide +kernel
  obtain ⟨f, hf, hrun⟩ := Option.bind_eq_some_iff.mp hrun
  obtain ⟨t, ht, hrun⟩ := Option.map_eq_some_iff.mp hrun
  obtain ⟨hbuiltin, hjoins⟩ := Prod.mk.inj hrun
  obtain ⟨failure, herror⟩ := exists_error_of_leftBy? ht
  have hpresent : ∀ join ∈ f.type.joins, join.table = joined.table ∨ join ∈ joined.joins := by
    rw [hjoins]
    decide
  rcases sameButJoins_of_contribute herror with ⟨c, _, _, hc, _⟩ | ⟨_, _, hsame⟩
  · rw [hc] at hbuiltin
    cases hbuiltin
  · exact ⟨f, failure, t, hf, herror, hpresent, (hsame hpresent).1⟩

/-- Finds fault with its values only after it has added a condition. -/
def hasty : CustomOperator :=
  { token := "hasty"
    label := "hasty"
    arity := .fixed 0
    validator := none
    contributor := fun column _ _ => do
      Statement.addPredicate (column ++ " IS NULL") []
      throw (.error (Error.invalidValue "hasty" "too late")) }

def hastyNote : Filter :=
  { type := ⟨"note", none, "entries.note", [], [.custom hasty], none, false, true, false⟩
    default := .custom hasty }

theorem exists_contribute_changed :
    (∃ f failure t, assignedToNobody? = some f ∧
      f.contribute Chain.noon (Statement.empty "entries" .postgresql) = .error failure t ∧
      t.joins = [CostQuery.issueJoin] ∧
      t.sql = "SELECT * FROM entries LEFT OUTER JOIN issues ON issues.id = entries.issue_id" ∧
      (Statement.empty "entries" .postgresql).sql = "SELECT * FROM entries") ∧
    ∃ failure t,
      hastyNote.contribute Chain.noon (Statement.empty "entries" .postgresql) = .error failure t ∧
      t.predicates = ["entries.note IS NULL"] := by
  constructor
  · have hrun : assignedToNobody?.bind (fun f =>
        (f.leftBy? Chain.noon (Statement.empty "entries" .postgresql)).map fun t => (t.joins, t.sql))
        = some ([CostQuery.issueJoin],
          "SELECT * FROM entries LEFT OUTER JOIN issues ON issues.id = entries.issue_id") := by
      decide +kernel
    obtain ⟨f, hf, hrun⟩ := Option.bind_eq_some_iff.mp hrun
    obtain ⟨t, ht, hrun⟩ := Option.map_eq_some_iff.mp hrun
    obtain ⟨hjoins, hsql⟩ := Prod.mk.inj hrun
    obtain ⟨failure, herror⟩ := exists_error_of_leftBy? ht
    exact ⟨f, failure, t, hf, herror, hjoins, hsql, by decide +kernel⟩
  · have hrun : (hastyNote.leftBy? Chain.noon (Statement.empty "entries" .postgresql)).map
        Statement.predicates = some ["entries.note IS NULL"] := by
      decide +kernel
    obtain ⟨t, ht, hpredicates⟩ := Option.map_eq_some_iff.mp hrun
    obtain ⟨failure, herror⟩ := exists_error_of_leftBy? ht
    exact ⟨failure, t, herror, hpredicates⟩

end Filter
end ReportFilters
