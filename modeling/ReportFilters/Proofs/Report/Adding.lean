import ReportFilters.Proofs.Catalog.Making
import ReportFilters.Proofs.Steps
import ReportFilters.Report

/-! Adding a filter to a report. A call is refused for one of four reasons or adds the filter asked for, and
it is answered alike whatever filters the report has. A refused call leaves no trace: later calls are
answered, and their nodes numbered, as if it had not been made. -/

namespace ReportFilters

namespace Report

def add (id : NodeId) (spec : FilterSpec) : EStateM Error Report Unit := do
  let report ← get
  match report.catalog.buildFilter spec.name report.settings.defaultToken spec.operator spec.values with
  | .ok f => set { report with chain := report.chain.prepend id f }
  | .error e => throw e

/-- Calls one after the other, whether or not they are refused, with the answers to them. Only a filter
that is added takes an id. -/
def addEach (report : Report) (id : NodeId) : List FilterSpec → Report × List (Option Error)
  | [] => (report, [])
  | spec :: later =>
    match (add id spec).run report with
    | .ok _ next =>
      let (last, answers) := next.addEach id.next later
      (last, none :: answers)
    | .error e left =>
      let (last, answers) := left.addEach id later
      (last, some e :: answers)

def refusal? (report : Report) (spec : FilterSpec) : Option Error :=
  match report.catalog.buildFilter spec.name report.settings.defaultToken spec.operator spec.values with
  | .ok _ => none
  | .error e => some e

theorem filter_of_ok {report : Report} {name : String} {operator : Option String} {values : List Value}
    {f : Filter}
    (h : report.catalog.buildFilter name report.settings.defaultToken operator values = .ok f) (id : NodeId) :
    report.filter id name operator values = .ok { report with chain := report.chain.prepend id f } := by
  rw [Report.filter, h, ok_bind]
  rfl

theorem filter_of_error {report : Report} {name : String} {operator : Option String} {values : List Value}
    {e : Error}
    (h : report.catalog.buildFilter name report.settings.defaultToken operator values = .error e)
    (id : NodeId) : report.filter id name operator values = .error e := by
  rw [Report.filter, h, error_bind]

theorem add_run (report : Report) (id : NodeId) (spec : FilterSpec) :
    (add id spec).run report = match report.filter id spec.name spec.operator spec.values with
      | .ok next => .ok () next
      | .error e => .error e report := by
  rw [Report.filter, EStateM.run, add, bind_apply, get_apply]
  dsimp only
  cases report.catalog.buildFilter spec.name report.settings.defaultToken spec.operator spec.values <;> rfl

theorem refusal?_withChain (report : Report) (chain : Chain) :
    ({ report with chain } : Report).refusal? = report.refusal? := rfl

theorem addEach_eq (report : Report) (id : NodeId) (specs : List FilterSpec) :
    report.addAll id (specs.filter fun spec => (report.refusal? spec).isNone) = .ok (report.addEach id specs).1 ∧
      (report.addEach id specs).2 = specs.map report.refusal? := by
  induction specs generalizing report id with
  | nil => exact ⟨rfl, rfl⟩
  | cons spec later ih =>
    cases hbuild : report.catalog.buildFilter spec.name report.settings.defaultToken spec.operator
      spec.values with
    | ok f =>
      have hfilter := filter_of_ok hbuild id
      have hnone : report.refusal? spec = none := by rw [refusal?, hbuild]
      obtain ⟨hlast, hanswers⟩ := ih { report with chain := report.chain.prepend id f } id.next
      rw [refusal?_withChain] at hlast hanswers
      rw [addEach, add_run, hfilter, List.filter_cons_of_pos (by simp [hnone]), addAll, hfilter,
        List.map_cons, hnone]
      exact ⟨hlast, congrArg (none :: ·) hanswers⟩
    | error e =>
      have hfilter := filter_of_error hbuild id
      have hsome : report.refusal? spec = some e := by rw [refusal?, hbuild]
      obtain ⟨hlast, hanswers⟩ := ih report id
      rw [addEach, add_run, hfilter, List.filter_cons_of_neg (by simp [hsome]), List.map_cons, hsome]
      exact ⟨hlast, congrArg (some e :: ·) hanswers⟩

structure Answers (registry : Registry) (report : Report) : Prop where
  refused_iff : ∀ id name operator values e, report.filter id name operator values = .error e ↔
    report.catalog.Refusal registry name operator e
  accepted_iff : ∀ id name operator values, (∃ next, report.filter id name operator values = .ok next) ↔
    report.catalog.Offers name operator
  added : ∀ id name operator values next, report.filter id name operator values = .ok next →
    ∃ f, report.catalog.Makes name report.settings.defaultToken operator values f ∧
      next = { report with chain := report.chain.prepend id f }

theorem answers_of_sound {decls : List Declaration} {registry : Registry} {report : Report}
    (hsound : report.catalog.Sound decls registry) : report.Answers registry := by
  refine ⟨?_, ?_, ?_⟩
  · intro id name operator values e
    have hbuild : report.catalog.buildFilter name report.settings.defaultToken operator values = .error e ↔
        report.catalog.Refusal registry name operator e := hsound.buildFilter_eq_error_iff
    rw [← hbuild, Report.filter, bind_eq_error_iff]
    refine or_iff_left ?_
    rintro ⟨f, -, hf⟩
    cases hf
  · intro id name operator values
    have hbuild : (∃ f, report.catalog.buildFilter name report.settings.defaultToken operator values = .ok f) ↔
        report.catalog.Offers name operator := hsound.exists_buildFilter_eq_ok_iff
    rw [← hbuild, Report.filter]
    cases report.catalog.buildFilter name report.settings.defaultToken operator values with
    | error e => exact iff_of_false (fun ⟨_, h⟩ => nomatch h) (fun ⟨_, h⟩ => nomatch h)
    | ok f => exact iff_of_true ⟨_, rfl⟩ ⟨f, rfl⟩
  · intro id name operator values next hnext
    obtain ⟨f, hf, hnext⟩ := exists_of_bind_eq_ok hnext
    cases hnext
    exact ⟨f, hsound.makes_of_buildFilter hf, rfl⟩

theorem add_run_eq_error_iff {report left : Report} {id : NodeId} {spec : FilterSpec} {e : Error} :
    (add id spec).run report = .error e left ↔
      report.filter id spec.name spec.operator spec.values = .error e ∧ left = report := by
  rw [add_run]
  cases report.filter id spec.name spec.operator spec.values with
  | ok next => exact iff_of_false (fun h => nomatch h) (fun h => nomatch h.1)
  | error e' =>
    constructor
    · intro h
      cases h
      exact ⟨rfl, rfl⟩
    · rintro ⟨⟨⟩, rfl⟩
      rfl

/-- With a built catalog, whose types are those that were declared, a call that adds a filter is refused
for exactly one of the four reasons or adds the filter asked for. A refused call leaves the report as it
is, and of several calls those that are refused may as well be left out. -/
theorem answers_of_builtFrom {decls : List Declaration} {ops : List CustomOperator} {report : Report}
    (hcatalog : report.catalog.BuiltFrom decls ops) :
    (∀ name ∉ baseFilter :: decls.map Declaration.name, report.catalog.type? name = none) ∧
    (∀ decl ∈ CatalogBuilder.baseDeclaration :: decls, ∃ type,
      report.catalog.type? decl.name = some type ∧ type.isAbstract = decl.isAbstract) ∧
    report.Answers (Registry.empty.registerAll ops) ∧
    (∀ id spec e left, (add id spec).run report = .error e left ↔
      report.filter id spec.name spec.operator spec.values = .error e ∧ left = report) ∧
    ∀ id specs, report.addAll id (specs.filter fun spec => (report.refusal? spec).isNone)
        = .ok (report.addEach id specs).1 ∧ (report.addEach id specs).2 = specs.map report.refusal? := by
  have hsound := hcatalog.sound
  refine ⟨?_, fun decl => hcatalog.exists_type, answers_of_sound hsound, fun _ _ _ _ => add_run_eq_error_iff,
    report.addEach_eq⟩
  intro name hname
  rw [← hsound.names] at hname
  refine List.find?_eq_none.mpr fun type htype heq => hname ?_
  exact List.mem_map.mpr ⟨type, htype, of_decide_eq_true heq⟩

theorem exists_answers_nestedDays : ∃ catalog, Catalog.BuiltFrom Catalog.nestedDays [] catalog ∧
    (∀ id operator values, (empty catalog {}).filter id "week" operator values
      = .error (Error.unknownFilterType "week")) ∧
    (∀ id operator values, (empty catalog {}).filter id "cost_filter" operator values
      = .error (Error.abstractConstruction "cost_filter")) ∧
    (∀ id values, (empty catalog {}).filter id "day" (some "=~") values
      = .error ((Error.unknownOperator "=~").withFilter "day")) ∧
    ∀ id values, ∃ f, (empty catalog {}).filter id "day" none values
      = .ok { empty catalog {} with chain := Chain.empty.prepend id f } ∧ f.values = values := by
  have hsome : (Catalog.ofDeclarations? Catalog.nestedDays []).isSome := by decide +kernel
  obtain ⟨catalog, hcatalog⟩ := Option.isSome_iff_exists.mp hsome
  have hbuilt := Catalog.builtFrom_of_ofDeclarations? hcatalog
  obtain ⟨hnone, htypes, hanswers, -⟩ := @answers_of_builtFrom _ _ (empty catalog {}) hbuilt
  obtain ⟨cost, hcost, habstract⟩ := htypes Catalog.nestedDays[0] (by decide)
  obtain ⟨day, hday, hconcrete⟩ := htypes Catalog.nestedDays[1] (by decide)
  refine ⟨catalog, hbuilt, ?_, ?_, ?_, ?_⟩
  · exact fun id operator values => (hanswers.refused_iff ..).mpr (.unknownType (hnone "week" (by decide)))
  · exact fun id operator values => (hanswers.refused_iff ..).mpr (.abstractType hcost habstract)
  · exact fun id values => (hanswers.refused_iff ..).mpr (.unknownOperator hday hconcrete (by decide))
  · intro id values
    obtain ⟨next, hnext⟩ := (hanswers.accepted_iff id "day" none values).mpr
      ⟨day, hday, hconcrete, fun _ h => nomatch h⟩
    obtain ⟨f, hmakes, rfl⟩ := hanswers.added _ _ _ _ _ hnext
    exact ⟨f, hnext, hmakes.values⟩

end Report
end ReportFilters
