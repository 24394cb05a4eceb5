import ReportFilters.Proofs.Chain.Alignment
import ReportFilters.Report

/-! Compilation at two instants. Built-in operators ask a clock for its calendar day, its offset and the
start of its week and for nothing else, so two instants on the same day of the configured offset give
the same query with the same parameters, or the same failure. -/

namespace ReportFilters

structure Clock.SameDay (clock other : Clock) : Prop where
  offset : clock.offset = other.offset
  today : clock.today = other.today
  weekStart : clock.weekStart = other.weekStart

namespace Clock.SameDay

variable {clock other : Clock} (h : clock.SameDay other)
include h

theorem hasToday_eq : clock.hasToday = other.hasToday := by
  have hday : clock.now.localDayNumber = other.now.localDayNumber := h.today
  rw [hasToday, hasToday, Instant.localDay?, Instant.localDay?, hday]

theorem daysIntoWeek_eq : clock.daysIntoWeek = other.daysIntoWeek := by
  rw [daysIntoWeek, daysIntoWeek, h.today, h.weekStart]

theorem boundary_eq : Builtin.boundary clock = Builtin.boundary other := by
  funext day shift
  rw [Builtin.boundary, Builtin.boundary, h.offset]

theorem instantAt_eq : Builtin.instantAt clock = Builtin.instantAt other := by
  funext values index
  rw [Builtin.instantAt, Builtin.instantAt, h.offset]

theorem dayRange_eq (column : String) : Builtin.dayRange column clock = Builtin.dayRange column other := by
  funext day first past
  rw [Builtin.dayRange, Builtin.dayRange, h.boundary_eq]

theorem fromBoundary_eq (column comparison : String) :
    Builtin.fromBoundary column comparison clock = Builtin.fromBoundary column comparison other := by
  funext shift
  rw [Builtin.fromBoundary, Builtin.fromBoundary, h.boundary_eq, h.today]

theorem predicate_eq (op : Builtin) (column : String) (values : List Value) :
    op.predicate column values clock = op.predicate column values other := by
  cases op with
  | today | daysAhead | daysAgo =>
    simp only [Builtin.predicate, h.dayRange_eq, h.today]
  | thisWeek =>
    simp only [Builtin.predicate, h.dayRange_eq, h.today, h.daysIntoWeek_eq]
  | beforeDaysAhead | afterDaysAhead | beforeDaysAgo | afterDaysAgo =>
    simp only [Builtin.predicate, h.fromBoundary_eq]
  | onDate => simp only [Builtin.predicate, h.dayRange_eq, h.offset]
  | beforeDate | afterDate | betweenDates => simp only [Builtin.predicate, h.instantAt_eq]
  | _ => rfl

theorem builtin_contribute_eq (op : Builtin) (column : String) (values : List Value) :
    op.contribute column values clock = op.contribute column values other := by
  simp only [Builtin.contribute, h.hasToday_eq, h.predicate_eq]

theorem filter_contribute_eq {f : Filter} (hb : f.operator.IsBuiltin) :
    f.contribute clock = f.contribute other := by
  obtain ⟨op, hop⟩ := hb
  have hcontribute : f.operator.contribute f.column f.values clock
      = f.operator.contribute f.column f.values other := by
    rw [hop, Operator.contribute, Operator.contribute, h.builtin_contribute_eq]
  rw [Filter.contribute, Filter.contribute, hcontribute]

theorem forM_contribute_eq {fs : List Filter} (hb : ∀ f ∈ fs, f.operator.IsBuiltin) :
    (fs.forM fun f => f.contribute clock) = fs.forM fun f => f.contribute other := by
  induction fs with
  | nil => rfl
  | cons f rest ih =>
    obtain ⟨hf, hrest⟩ := List.forall_mem_cons.mp hb
    rw [List.forM, List.forM, h.filter_contribute_eq hf, ih hrest]

theorem compile_eq {chain : Chain} (hb : chain.IsBuiltin) (table : String) (dialect : Dialect) :
    chain.compile table dialect clock = chain.compile table dialect other := by
  have hforM := h.forM_contribute_eq fun f hf => hb f (List.mem_reverse.mp hf)
  rw [Chain.compile, Chain.compile, Chain.assemble, Chain.assemble, Chain.bottomUp, hforM]

end Clock.SameDay

namespace Report

theorem exists_clockAt {settings : Settings} (h : settings.validate = .ok ()) :
    ∃ offset weekStart, settings.offset = .ok offset ∧
      ∀ now, settings.clockAt now = .ok { now := now.inOffset offset, weekStart } := by
  rw [Settings.validate] at h
  split at h
  · cases h
  split at h
  · cases h
  obtain ⟨offset, hoffset, h⟩ := exists_of_bind_eq_ok h
  obtain ⟨weekStart, hweekStart, _⟩ := exists_of_bind_eq_ok h
  refine ⟨offset, weekStart, hoffset, ?_⟩
  intro now
  rw [Settings.clockAt, hoffset, hweekStart]
  rfl

theorem compileAt_of_clockAt {report : Report} {now : Instant} {clock : Clock}
    (h : report.settings.clockAt now = .ok clock) : report.compileAt now
      = report.chain.compile report.settings.baseTable report.settings.dialect clock := by
  rw [compileAt, h]
  rfl

/-- With accepted settings and built-in operators, a report compiles alike at any two instants of the
same calendar day, and it makes no difference in which offset an instant is given. -/
theorem compileAt_eq_of_sameDay {report : Report} (hsettings : report.settings.validate = .ok ())
    (hb : report.chain.IsBuiltin) :
    ∃ offset, report.settings.offset = .ok offset ∧
      (∀ now now' : Instant,
        (now.inOffset offset).localDayNumber = (now'.inOffset offset).localDayNumber →
        report.compileAt now = report.compileAt now') ∧
      ∀ (now : Instant) (zone : Offset), report.compileAt (now.inOffset zone) = report.compileAt now := by
  obtain ⟨offset, weekStart, hoffset, hclock⟩ := exists_clockAt hsettings
  have hsame : ∀ now now' : Instant,
      (now.inOffset offset).localDayNumber = (now'.inOffset offset).localDayNumber →
      report.compileAt now = report.compileAt now' := by
    intro now now' hday
    have hclocks : Clock.SameDay { now := now.inOffset offset, weekStart }
        { now := now'.inOffset offset, weekStart } := ⟨rfl, hday, rfl⟩
    rw [compileAt_of_clockAt (hclock now), compileAt_of_clockAt (hclock now'), hclocks.compile_eq hb]
  exact ⟨offset, hoffset, hsame, fun now zone => hsame _ _ rfl⟩

def recentWeek : Report :=
  let type : FilterType := ⟨"spent_on", none, "entries.spent_on", [], [], none, false, true, false⟩
  { catalog := ⟨[], ⟨[]⟩, .builtin .equal, []⟩
    settings := { utcOffset := "+02:00", weekStart := "sun" }
    chain := ⟨[⟨⟨2⟩, { type, default := .builtin .beforeDaysAgo, values := [.int 2] }⟩,
      ⟨⟨1⟩, { type, default := .builtin .thisWeek }⟩]⟩ }

/-- Half past midnight of 15 May 2024 two hours east of UTC, and an hour before the next midnight,
the first as seen in UTC, the second eleven hours west of it. -/
def earlyAndLate : Instant × Instant :=
  let early : Instant :=
    { Chain.noon.now with
      second := 63851322600, first_le := by decide, lt_end := by decide }
  let late : Instant :=
    { Chain.noon.now with
      second := 63851403600, first_le := by decide, lt_end := by decide }
  (early, late.inOffset ⟨-39600, by decide⟩)

theorem isBuiltin_recentWeek : recentWeek.chain.IsBuiltin := by
  intro f hf
  simp only [recentWeek, Chain.filters, List.map_cons, List.map_nil, List.mem_cons, List.not_mem_nil,
    or_false] at hf
  rcases hf with rfl | rfl
  · exact ⟨.beforeDaysAgo, rfl⟩
  · exact ⟨.thisWeek, rfl⟩

theorem compileAt_recentWeek :
    recentWeek.settings.validate = .ok () ∧ recentWeek.chain.IsBuiltin ∧
      earlyAndLate.1.text = "2024-05-14T22:30:00+00:00" ∧
      earlyAndLate.2.text = "2024-05-15T10:00:00-11:00" ∧
      (recentWeek.compileAt earlyAndLate.1).isOk ∧
      recentWeek.compileAt earlyAndLate.1 = recentWeek.compileAt earlyAndLate.2 := by
  have hsettings : recentWeek.settings.validate = .ok () := by decide +kernel
  refine ⟨hsettings, isBuiltin_recentWeek, by decide +kernel, by decide +kernel, by decide +kernel, ?_⟩
  obtain ⟨offset, hoffset, hsame, _⟩ := compileAt_eq_of_sameDay hsettings isBuiltin_recentWeek
  have heast : recentWeek.settings.offset = .ok ⟨7200, by decide⟩ := by decide +kernel
  cases hoffset.symm.trans heast
  exact hsame _ _ (by decide +kernel)

end Report
end ReportFilters
