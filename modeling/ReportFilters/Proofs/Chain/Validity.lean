import ReportFilters.Proofs.Chain.Alignment
import ReportFilters.Proofs.Operator.Midnights

/-! Validation and compilation of chains of built-in operators. Validation looks at dates in UTC and
compilation in the offset of the clock, but what the one accepts the other never finds unusable: a
valid chain has a query unless the calendar ends where the clock or a value asks for a day. -/

namespace ReportFilters

namespace Builtin

theorem mem_time_of_midnights {op : Builtin} {values : List Value} {clock : Clock} {n : Int}
    (h : n ∈ op.midnights values clock) : op ∈ OperatorGroup.time.operators := by
  cases op with
  | today | thisWeek | daysAhead | daysAgo | beforeDaysAhead | afterDaysAhead | beforeDaysAgo
  | afterDaysAgo | onDate | beforeDate | afterDate | betweenDates => decide
  | _ => cases h

theorem accepts_iff (op : Builtin) (values : List Value) :
    (Operator.builtin op).accepts values ↔
      op.arity.isMetBy (op.arity.prepare values).length ∧
        op.complaints (op.arity.prepare values) = [] := by
  rw [Operator.accepts, List.isEmpty_iff, Operator.complaints_eq_check, Operator.arity_builtin,
    Operator.prepare_builtin, Operator.check_builtin]
  split
  · simp [*]
  · simp [*]

theorem outcome_of_accepts {op : Builtin} {values : List Value}
    (h : (Operator.builtin op).accepts values) (dialect : Dialect) (column : String)
    (clock : Clock) :
    (Operator.builtin op).outcome op.clause dialect column values clock =
      op.clause dialect column (op.arity.prepare values) clock :=
  outcome_of_isMetBy ((op.accepts_iff values).mp h).1 dialect column clock

theorem clause_of_leavesCalendar {op : Builtin} {values : List Value} {clock : Clock}
    (hmet : op.arity.isMetBy values.length) (h : op.LeavesCalendar values clock)
    (dialect : Dialect) (column : String) :
    op.clause dialect column values clock = .error .offCalendar := by
  rw [clause]
  split
  next htoday =>
    rcases h with hday | ⟨rfl, t, hm, hday⟩
    · rw [Clock.hasToday, hday] at htoday
      cases htoday
    · obtain ⟨v, rfl⟩ := List.length_eq_one_iff.mp (of_decide_eq_true hmet)
      rw [predicate_of_leavesCalendar hm hday]
      rfl
  next => rfl

theorem clause_cases {op : Builtin} {values : List Value} {clock : Clock}
    (hmet : op.arity.isMetBy values.length) (hacc : op.complaints values = [])
    (h : ¬op.LeavesCalendar values clock) (dialect : Dialect) (column : String) :
    ((∀ n ∈ op.midnights values clock, clock.offset.HasMidnight n) ∧
        ∃ p, op.clause dialect column values clock = .ok p) ∨
      (∃ n ∈ op.midnights values clock, ¬clock.offset.HasMidnight n) ∧
        ∃ fault : ValueFault, op.clause dialect column values clock = .error (fault.failure op.token) ∧
          fault.IsAtLimit := by
  have htoday : clock.hasToday = true := Option.isSome_iff_ne_none.mpr fun hday => h (.inl hday)
  have hclause : op.clause dialect column values clock =
      (op.predicate (dialect.quoteQualified column) values clock).mapError
        (·.failure op.token) := by
    rw [clause, htoday, if_pos rfl]
  rw [hclause]
  rcases hangsOn_predicate hmet hacc h (dialect.quoteQualified column) with
    ⟨hall, p, hp⟩ | ⟨hmissing, fault, hfault, hlimit⟩
  · exact .inl ⟨hall, p, by rw [hp]; rfl⟩
  · exact .inr ⟨hmissing, fault, by rw [hfault]; rfl, hlimit⟩

end Builtin

namespace Filter

def midnights (f : Filter) (clock : Clock) : List Int :=
  match f.operator with
  | .builtin op => op.midnights (f.operator.prepare f.values) clock
  | .custom _ => []

def LeavesCalendar (f : Filter) (clock : Clock) : Prop :=
  match f.operator with
  | .builtin op => op.LeavesCalendar (f.operator.prepare f.values) clock
  | .custom _ => False

def IsOnCalendar (f : Filter) (clock : Clock) : Prop :=
  ¬f.LeavesCalendar clock ∧ ∀ n ∈ f.midnights clock, clock.offset.HasMidnight n

def IsLimitError (f : Filter) (e : Error) : Prop :=
  ∃ (op : Builtin) (fault : ValueFault), f.operator = .builtin op ∧
    op ∈ OperatorGroup.time.operators ∧ fault.IsAtLimit ∧
    Failure.error e = (fault.failure op.token).withFilter f.name

theorem IsLimitError.code {f : Filter} {e : Error} (h : f.IsLimitError e) :
    e.code = .invalidValue ∧ e.filter = some f.name := by
  obtain ⟨op, fault, _, _, hlimit, he⟩ := h
  obtain ⟨e', he', hcode, _⟩ := hlimit.failure op.token
  rw [he'] at he
  cases he
  exact ⟨hcode, rfl⟩

theorem outcome_cases {f : Filter} (hb : f.operator.IsBuiltin) (hv : f.isValid) (dialect : Dialect)
    (clock : Clock) :
    (f.IsOnCalendar clock ∧ ∃ p, f.outcome f.operator.clause dialect clock = .ok p) ∨
    (f.LeavesCalendar clock ∧ f.outcome f.operator.clause dialect clock = .error .offCalendar) ∨
    (¬f.LeavesCalendar clock ∧ (∃ n ∈ f.midnights clock, ¬clock.offset.HasMidnight n) ∧
      ∃ e, f.outcome f.operator.clause dialect clock = .error (.error e) ∧ f.IsLimitError e) := by
  obtain ⟨op, hop⟩ := hb
  have hacc : (Operator.builtin op).accepts f.values := by rwa [isValid, hop] at hv
  obtain ⟨hmet, hnone⟩ := (op.accepts_iff f.values).mp hacc
  have hout : f.outcome f.operator.clause dialect clock =
      (op.clause dialect f.column (op.arity.prepare f.values) clock).mapError
        (·.withFilter f.name) := by
    rw [outcome, hop, ← Builtin.outcome_of_accepts hacc]
    rfl
  have hmid : f.midnights clock = op.midnights (op.arity.prepare f.values) clock := by
    rw [midnights, hop]
    rfl
  have hleave : f.LeavesCalendar clock ↔ op.LeavesCalendar (op.arity.prepare f.values) clock := by
    rw [LeavesCalendar, hop]
    rfl
  rw [hout, IsOnCalendar, hmid, hleave]
  by_cases h : op.LeavesCalendar (op.arity.prepare f.values) clock
  · have hclause := Builtin.clause_of_leavesCalendar hmet h dialect f.column
    exact .inr (.inl ⟨h, by rw [hclause]; rfl⟩)
  · rcases Builtin.clause_cases hmet hnone h dialect f.column with
      ⟨hall, p, hp⟩ | ⟨hmissing, fault, hfault, hlimit⟩
    · exact .inl ⟨⟨h, hall⟩, p, by rw [hp]; rfl⟩
    · obtain ⟨n, hn, hno⟩ := hmissing
      obtain ⟨e, he, _⟩ := hlimit.failure op.token
      refine .inr (.inr ⟨h, ⟨n, hn, hno⟩, e.withFilter f.name, by rw [hfault, he]; rfl, ?_⟩)
      exact ⟨op, fault, hop, Builtin.mem_time_of_midnights hn, hlimit, by rw [he]; rfl⟩

theorem errors_eq_nil_iff (f : Filter) : f.errors = [] ↔ f.isValid := by
  rw [errors, Operator.errors, List.map_eq_nil_iff, isValid, Operator.accepts, List.isEmpty_iff]

def IsStuck (clock : Clock) (f : Filter) : Prop := f.isBound ∧ ¬f.IsOnCalendar clock

end Filter

namespace Chain

def IsLowest (chain : Chain) (P : Filter → Prop) (f : Filter) : Prop :=
  ∃ below above, chain.bottomUp = below ++ f :: above ∧ (∀ g ∈ below, ¬P g) ∧ P f

theorem IsLowest.holds {chain : Chain} {P : Filter → Prop} {f : Filter} (h : chain.IsLowest P f) :
    P f := by
  obtain ⟨_, _, _, _, hP⟩ := h
  exact hP

theorem IsLowest.unique {chain : Chain} {P : Filter → Prop} {f g : Filter}
    (hf : chain.IsLowest P f) (hg : chain.IsLowest P g) : f = g := by
  classical
  -- a search from the bottom up finds it
  have hfind : ∀ h, chain.IsLowest P h → chain.bottomUp.find? (fun h => decide (P h)) = some h := by
    rintro h ⟨below, above, hsplit, hbelow, hP⟩
    rw [List.find?_eq_some_iff_append]
    exact ⟨by simpa using hP, below, above, hsplit, by simpa using hbelow⟩
  exact Option.some.inj ((hfind f hf).symm.trans (hfind g hg))

theorem errors_eq_nil_iff (chain : Chain) : chain.errors = [] ↔ chain.isValid := by
  rw [errors, List.flatMap_eq_nil_iff, isValid, List.all_eq_true]
  simp only [List.map_eq_nil_iff, Filter.errors_eq_nil_iff, bottomUp, List.mem_reverse]

theorem compile_of_not_isValid {chain : Chain} (h : ¬chain.isValid) (table : String)
    (dialect : Dialect) (clock : Clock) :
    ∃ f, chain.IsLowest (·.errors ≠ []) f ∧
      chain.compile table dialect clock
        = .error (.error (Error.invalidFilterState f.name f.errors)) := by
  obtain ⟨f, hf⟩ := Option.ne_none_iff_exists'.mp (mt (find?_isValid chain).mp h)
  refine ⟨f, ?_, compile_of_error (by rw [assemble, hf])⟩
  obtain ⟨hinvalid, below, above, hsplit, hbelow⟩ := List.find?_eq_some_iff_append.mp hf
  refine ⟨below, above, hsplit, ?_, ?_⟩
  · intro g hg
    rw [not_not, Filter.errors_eq_nil_iff]
    simpa using hbelow g hg
  · simpa [Filter.errors_eq_nil_iff] using hinvalid

theorem compile_of_isValid {chain : Chain} (hb : chain.IsBuiltin) (hv : chain.isValid)
    (table : String) (dialect : Dialect) (clock : Clock) :
    ((∀ f ∈ chain.filters, ¬f.IsStuck clock) ∧
        ∃ q, chain.compile table dialect clock = .ok q) ∨
      ∃ f, chain.IsLowest (Filter.IsStuck clock) f ∧
        (f.LeavesCalendar clock ∧ chain.compile table dialect clock = .error .offCalendar ∨
          ¬f.LeavesCalendar clock ∧ ∃ e, chain.compile table dialect clock = .error (.error e) ∧
            f.IsLimitError e) := by
  have hmem : ∀ f, f ∈ chain.bottomUp ↔ f ∈ chain.filters := fun f => List.mem_reverse
  have hcases : ∀ f ∈ chain.bottomUp, _ := fun f hf =>
    have hf := (hmem f).mp hf
    Filter.outcome_cases (hb f hf) (List.all_eq_true.mp hv f hf) dialect clock
  -- a filter that has a condition is not stuck
  have hfree : ∀ f ∈ chain.bottomUp,
      (∃ p, f.outcome f.operator.clause dialect clock = .ok p) → f.IsOnCalendar clock := by
    rintro f hf ⟨p, hp⟩
    rcases hcases f hf with ⟨hon, _⟩ | ⟨_, hout⟩ | ⟨_, _, e, hout, _⟩
    · exact hon
    · rw [hp] at hout
      cases hout
    · rw [hp] at hout
      cases hout
  rcases assemble_cases (fun f hf => (hb f hf).appends) hv table dialect clock with
    ⟨parts, hparts, hs⟩ | ⟨failure, hs, below, f, above, hsplit, hbelow, hbound, hout⟩
  · refine .inl ⟨?_, _, compile_of_ok hs⟩
    rintro f hf ⟨hbound, hstuck⟩
    have hf' := (hmem f).mpr hf
    have hin : f ∈ parts.map Prod.fst := by
      rw [hparts.1]
      exact List.mem_filter.mpr ⟨hf', hbound⟩
    obtain ⟨part, hpart, rfl⟩ := List.mem_map.mp hin
    exact hstuck (hfree _ hf' ⟨_, hparts.2 part hpart⟩)
  · have hf : f ∈ chain.bottomUp := by simp [hsplit]
    have hlow : ¬f.IsOnCalendar clock → chain.IsLowest (Filter.IsStuck clock) f := by
      intro hoff
      refine ⟨below, above, hsplit, ?_, hbound, hoff⟩
      rintro g hg ⟨hgb, hgstuck⟩
      exact hgstuck (hfree g (by simp [hsplit, hg]) (hbelow g hg hgb))
    rcases hcases f hf with ⟨_, p, hp⟩ | ⟨hleave, hoff⟩ | ⟨hstay, ⟨n, hn, hmissing⟩, e, he, hlimit⟩
    · rw [hout] at hp
      cases hp
    · rw [hout] at hoff
      cases hoff
      exact .inr ⟨f, hlow fun hon => hon.1 hleave, .inl ⟨hleave, compile_of_error hs⟩⟩
    · rw [hout] at he
      cases he
      exact .inr ⟨f, hlow fun hon => hmissing (hon.2 n hn), .inr ⟨hstay, e, compile_of_error hs, hlimit⟩⟩

structure Decided (chain : Chain) (table : String) (dialect : Dialect) (clock : Clock) : Prop where
  valid_iff : chain.isValid ↔ chain.errors = []
  refused_iff : ¬chain.isValid ↔
    ∃ e, chain.compile table dialect clock = .error (.error e) ∧ e.code = .invalidFilterState
  refused : ∀ e, chain.compile table dialect clock = .error (.error e) →
    e.code = .invalidFilterState →
    ∃ f, chain.IsLowest (·.errors ≠ []) f ∧ e.filter = some f.name ∧ e.suggestions = f.errors
  compiled_iff : chain.isValid → ((∃ q, chain.compile table dialect clock = .ok q) ↔
    ∀ f ∈ chain.filters, f.isBound → f.IsOnCalendar clock)
  failed : chain.isValid → ∀ e, chain.compile table dialect clock = .error (.error e) →
    e.code = .invalidValue ∧ ∃ f, chain.IsLowest (Filter.IsStuck clock) f ∧
      ¬f.LeavesCalendar clock ∧ (∃ n ∈ f.midnights clock, ¬clock.offset.HasMidnight n) ∧
      f.IsLimitError e
  stopped_iff : chain.compile table dialect clock = .error .offCalendar ↔
    chain.isValid ∧ ∃ f, chain.IsLowest (Filter.IsStuck clock) f ∧ f.LeavesCalendar clock

theorem decided_of_not_isValid {chain : Chain} (hv : ¬chain.isValid) (table : String)
    (dialect : Dialect) (clock : Clock) : chain.Decided table dialect clock := by
  obtain ⟨f, hlow, hf⟩ := compile_of_not_isValid hv table dialect clock
  have hcompile : ∀ failure, chain.compile table dialect clock = .error failure →
      failure = .error (Error.invalidFilterState f.name f.errors) := by
    intro failure hfailure
    rw [hf] at hfailure
    exact (Except.error.inj hfailure).symm
  refine ⟨(errors_eq_nil_iff chain).symm, ?_, ?_, fun h => absurd h hv, fun h => absurd h hv, ?_⟩
  · exact iff_of_true hv ⟨_, hf, rfl⟩
  · intro e he _
    cases hcompile _ he
    exact ⟨f, hlow, rfl, rfl⟩
  · refine iff_of_false ?_ fun h => hv h.1
    intro hoff
    cases hcompile _ hoff

theorem IsLowest.not_forall {chain : Chain} {clock : Clock} {f : Filter}
    (h : chain.IsLowest (Filter.IsStuck clock) f) :
    ¬∀ g ∈ chain.filters, g.isBound → g.IsOnCalendar clock := by
  obtain ⟨below, above, hsplit, _, hbound, hstuck⟩ := h
  have hf : f ∈ chain.bottomUp := by simp [hsplit]
  exact fun hall => hstuck (hall f (List.mem_reverse.mp hf) hbound)

/-! The three ways in which a valid chain turns out. -/

section
variable {chain : Chain} {table : String} {dialect : Dialect} {clock : Clock} (hv : chain.isValid)
include hv

theorem decided_of_ok (hfree : ∀ f ∈ chain.filters, ¬f.IsStuck clock) {q : CompiledQuery}
    (hq : chain.compile table dialect clock = .ok q) : chain.Decided table dialect clock := by
  have hnot : ∀ failure, chain.compile table dialect clock ≠ .error failure := by
    intro failure hfailure
    rw [hq] at hfailure
    cases hfailure
  have hon : ∀ f ∈ chain.filters, f.isBound → f.IsOnCalendar clock := fun f hf hbound =>
    by_contra fun hoff => hfree f hf ⟨hbound, hoff⟩
  refine ⟨(errors_eq_nil_iff chain).symm, ?_, fun e he => absurd he (hnot _), fun _ => ?_,
    fun _ e he => absurd he (hnot _), ?_⟩
  · exact iff_of_false (not_not_intro hv) fun ⟨e, he, _⟩ => hnot _ he
  · exact iff_of_true ⟨q, hq⟩ hon
  · refine iff_of_false (hnot _) ?_
    rintro ⟨_, f, hlow, _⟩
    exact hlow.not_forall hon

theorem decided_of_stopped {f : Filter} (hlow : chain.IsLowest (Filter.IsStuck clock) f)
    (hleave : f.LeavesCalendar clock)
    (hoff : chain.compile table dialect clock = .error .offCalendar) :
    chain.Decided table dialect clock := by
  have hnot : ∀ e, chain.compile table dialect clock ≠ .error (.error e) := by
    intro e he
    rw [hoff] at he
    cases he
  refine ⟨(errors_eq_nil_iff chain).symm, ?_, fun e he => absurd he (hnot e), fun _ => ?_,
    fun _ e he => absurd he (hnot e), ?_⟩
  · exact iff_of_false (not_not_intro hv) fun ⟨e, he, _⟩ => hnot e he
  · refine iff_of_false ?_ hlow.not_forall
    rintro ⟨q, hq⟩
    rw [hoff] at hq
    cases hq
  · exact iff_of_true hoff ⟨hv, f, hlow, hleave⟩

theorem decided_of_limit {f : Filter} (hlow : chain.IsLowest (Filter.IsStuck clock) f)
    (hstay : ¬f.LeavesCalendar clock) {e : Error}
    (he : chain.compile table dialect clock = .error (.error e)) (hlimit : f.IsLimitError e) :
    chain.Decided table dialect clock := by
  have honly : ∀ failure, chain.compile table dialect clock = .error failure →
      failure = .error e := by
    intro failure hfailure
    rw [he] at hfailure
    exact (Except.error.inj hfailure).symm
  have hcode : e.code ≠ .invalidFilterState := by
    rw [hlimit.code.1]
    decide
  refine ⟨(errors_eq_nil_iff chain).symm, ?_, ?_, fun _ => ?_, fun _ e' he' => ?_, ?_⟩
  · refine iff_of_false (not_not_intro hv) ?_
    rintro ⟨e', he', hcode'⟩
    cases honly _ he'
    exact hcode hcode'
  · intro e' he' hcode'
    cases honly _ he'
    exact absurd hcode' hcode
  · refine iff_of_false ?_ hlow.not_forall
    rintro ⟨q, hq⟩
    rw [he] at hq
    cases hq
  · cases honly _ he'
    have hstuck := hlow.holds.2
    refine ⟨hlimit.code.1, f, hlow, hstay, ?_, hlimit⟩
    -- a stuck filter that stays on the calendar lacks one of its midnights
    by_contra hnone
    exact hstuck ⟨hstay, fun n hn => not_not.mp fun hmissing => hnone ⟨n, hn, hmissing⟩⟩
  · refine iff_of_false (fun hoff => by cases honly _ hoff) ?_
    rintro ⟨_, g, hg, hleave⟩
    rw [hg.unique hlow] at hleave
    exact hstay hleave

end

theorem decided_of_isValid {chain : Chain} (hb : chain.IsBuiltin) (hv : chain.isValid)
    (table : String) (dialect : Dialect) (clock : Clock) : chain.Decided table dialect clock := by
  rcases compile_of_isValid hb hv table dialect clock with
    ⟨hfree, q, hq⟩ | ⟨f, hlow, ⟨hleave, hoff⟩ | ⟨hstay, e, he, hlimit⟩⟩
  · exact decided_of_ok hv hfree hq
  · exact decided_of_stopped hv hlow hleave hoff
  · exact decided_of_limit hv hlow hstay he hlimit

theorem decided_of_isBuiltin {chain : Chain} (hb : chain.IsBuiltin) (table : String)
    (dialect : Dialect) (clock : Clock) : chain.Decided table dialect clock := by
  by_cases hv : chain.isValid
  · exact decided_of_isValid hb hv table dialect clock
  · exact decided_of_not_isValid hv table dialect clock

/-- On the first day of the calendar, looked for west of where it begins. -/
def westOfFirstDay : Chain :=
  let type : FilterType := ⟨"spent_on", none, "entries.spent_on", [], [], none, false, true, false⟩
  let first : Instant :=
    { noon.now with
      second := -95746130 * 86400, first_le := by decide, lt_end := by decide }
  ⟨[⟨⟨1⟩, { type, default := .builtin .onDate, values := [.instant first] }⟩]⟩

def noonWest : Clock := { noon with now := noon.now.inOffset ⟨-3600, by decide⟩ }

theorem isBuiltin_westOfFirstDay : westOfFirstDay.IsBuiltin := by
  intro f hf
  simp only [westOfFirstDay, filters, List.map_cons, List.map_nil, List.mem_singleton] at hf
  rw [hf]
  exact ⟨.onDate, rfl⟩

/-- The program stops although the chain is valid. -/
theorem compile_westOfFirstDay :
    westOfFirstDay.IsBuiltin ∧ westOfFirstDay.isValid ∧
      ¬((∃ q, westOfFirstDay.compile "entries" .postgresql noonWest = .ok q) ∨
        ∃ e, westOfFirstDay.compile "entries" .postgresql noonWest = .error (.error e) ∧
          e.code = .invalidValue) := by
  have hoff : westOfFirstDay.compile "entries" .postgresql noonWest = .error .offCalendar := by
    decide +kernel
  refine ⟨isBuiltin_westOfFirstDay, by decide +kernel, ?_⟩
  rw [hoff]
  rintro (⟨q, hq⟩ | ⟨e, he, _⟩)
  · cases hq
  · cases he

theorem decided_westOfFirstDay :
    westOfFirstDay.IsBuiltin ∧ westOfFirstDay.Decided "entries" .postgresql noonWest :=
  ⟨isBuiltin_westOfFirstDay, decided_of_isBuiltin isBuiltin_westOfFirstDay ..⟩

end Chain
end ReportFilters
