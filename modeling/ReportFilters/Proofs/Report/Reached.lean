import ReportFilters.Proofs.Filter.Membership
import ReportFilters.Report

/-! Reports put together by adding and editing filters, or from a definition. Their filters are of
concrete types of the catalog, with operators of these types, and what stands in for an operator
that is not assigned was chosen by the report's own settings. -/

namespace ReportFilters

theorem Chain.mem_filters_of_updateFilter {chain next : Chain} {id : NodeId} {edit : Filter → Filter}
    (h : chain.updateFilter id edit = some next) {f : Filter} (hf : f ∈ next.filters) :
    f ∈ chain.filters ∨ ∃ g ∈ chain.filters, f = edit g := by
  obtain ⟨nodes⟩ := chain
  obtain ⟨updated, hupdated, rfl⟩ := Option.map_eq_some_iff.mp h
  clear h
  rw [filters] at hf ⊢
  dsimp only at hf ⊢
  induction nodes generalizing updated with
  | nil => cases hupdated
  | cons node below ih =>
    rw [updateIn] at hupdated
    split at hupdated
    · cases hupdated
      rcases List.mem_cons.mp hf with rfl | hbelow
      · exact .inr ⟨node.filter, List.mem_cons_self .., rfl⟩
      · exact .inl (List.mem_cons_of_mem _ hbelow)
    · obtain ⟨rest, hrest, rfl⟩ := Option.map_eq_some_iff.mp hupdated
      rcases List.mem_cons.mp hf with rfl | hf
      · exact .inl (List.mem_cons_self ..)
      · rcases ih rest hrest hf with hkept | ⟨g, hg, rfl⟩
        · exact .inl (List.mem_cons_of_mem _ hkept)
        · exact .inr ⟨g, List.mem_cons_of_mem _ hg, rfl⟩

namespace Report

/-- Reports of an application. A call that fails leaves the report it was made on. -/
inductive Reached (catalog : Catalog) (settings : Settings) : Report → Prop
  | empty : Reached catalog settings (Report.empty catalog settings)
  | filter {report next : Report} (h : Reached catalog settings report) {id : NodeId} {name : String}
    {operator : Option String} {values : List Value}
    (hnext : report.filter id name operator values = .ok next) : Reached catalog settings next
  | update {report next : Report} (h : Reached catalog settings report) {id : NodeId}
    {edit : Filter → Filter} (hedit : ∀ f : Filter, f.Edits (edit f))
    (hnext : report.updateFilter id edit = some next) : Reached catalog settings next
  | ofSpec {first : NodeId} {spec : ReportSpec} {report : Report}
    (h : Report.ofSpec catalog settings first spec = .ok report) : Reached catalog settings report

structure Fits (catalog : Catalog) (settings : Settings) (report : Report) : Prop where
  sameCatalog : report.catalog = catalog
  sameSettings : report.settings = settings
  filters : ∀ f ∈ report.chain.filters,
    f.Fits catalog ∧ f.type.effectiveDefault settings.defaultToken = some f.default

section
variable {decls : List Declaration} {registry : Registry} {catalog : Catalog} {settings : Settings}
  {report next : Report}

theorem fits_empty : (Report.empty catalog settings).Fits catalog settings :=
  ⟨rfl, rfl, fun _ hf => nomatch hf⟩

theorem Fits.filter (hsound : catalog.Sound decls registry) (h : report.Fits catalog settings)
    {id : NodeId} {name : String} {operator : Option String} {values : List Value}
    (hnext : report.filter id name operator values = .ok next) : next.Fits catalog settings := by
  obtain ⟨f, hf, hnext⟩ := exists_of_bind_eq_ok hnext
  cases hnext
  rw [h.sameCatalog, h.sameSettings] at hf
  refine ⟨h.sameCatalog, h.sameSettings, ?_⟩
  intro g hg
  rcases List.mem_cons.mp hg with rfl | hg
  · exact hsound.fits_of_buildFilter hf
  · exact h.filters g hg

theorem Fits.update (h : report.Fits catalog settings) {id : NodeId} {edit : Filter → Filter}
    (hedit : ∀ f : Filter, f.Edits (edit f)) (hnext : report.updateFilter id edit = some next) :
    next.Fits catalog settings := by
  obtain ⟨chain, hchain, rfl⟩ := Option.map_eq_some_iff.mp hnext
  refine ⟨h.sameCatalog, h.sameSettings, ?_⟩
  intro f hf
  rcases Chain.mem_filters_of_updateFilter hchain hf with hf | ⟨g, hg, rfl⟩
  · exact h.filters f hf
  · obtain ⟨hfits, hdefault⟩ := h.filters g hg
    obtain ⟨hfits, htype, hsame⟩ := hfits.edits (hedit g)
    rw [htype, hsame]
    exact ⟨hfits, hdefault⟩

theorem Fits.addAll (hsound : catalog.Sound decls registry) (h : report.Fits catalog settings)
    {id : NodeId} {specs : List FilterSpec} (hnext : report.addAll id specs = .ok next) :
    next.Fits catalog settings := by
  induction specs generalizing report id with
  | nil =>
    cases hnext
    exact h
  | cons spec above ih =>
    obtain ⟨added, hadded, hnext⟩ := exists_of_bind_eq_ok hnext
    exact ih (h.filter hsound hadded) hnext

theorem Reached.fits (hsound : catalog.Sound decls registry) (h : Reached catalog settings report) :
    report.Fits catalog settings := by
  induction h with
  | empty => exact fits_empty
  | filter _ hnext ih => exact ih.filter hsound hnext
  | update _ hedit hnext ih => exact ih.update hedit hnext
  | ofSpec h => exact fits_empty.addAll hsound h

end

def nestedReport? (catalog : Catalog) : Option Report := do
  let report ← ((Report.empty catalog {}).filter .first "booked_late" none [.bool true]).toOption
  let report ← (report.filter NodeId.first.next "day" (some "w") []).toOption
  report.updateFilter .first fun f => f.edited [.operator "y", .operator "t+", .values []]

theorem reached_of_nestedReport? {catalog : Catalog} {report : Report}
    (h : nestedReport? catalog = some report) : Reached catalog {} report := by
  obtain ⟨lower, hlower, h⟩ := Option.bind_eq_some_iff.mp h
  obtain ⟨upper, hupper, h⟩ := Option.bind_eq_some_iff.mp h
  have hlower := Reached.empty.filter (eq_ok_of_toOption_eq_some hlower)
  have hupper := hlower.filter (eq_ok_of_toOption_eq_some hupper)
  exact hupper.update (fun f => f.edits_edited _) h

theorem exists_nestedReport : ∃ catalog report, Catalog.BuiltFrom Catalog.nestedDays [] catalog ∧
    Reached catalog {} report ∧ report.spec = ⟨[{ name := "day", operator := some "w" },
      { name := "booked_late", operator := some "y", values := [.bool true] }]⟩ := by
  have hrun : ((Catalog.ofDeclarations? Catalog.nestedDays []).bind nestedReport?).map spec
      = some ⟨[{ name := "day", operator := some "w" },
        { name := "booked_late", operator := some "y", values := [.bool true] }]⟩ := by
    decide +kernel
  obtain ⟨report, hrun, hspec⟩ := Option.map_eq_some_iff.mp hrun
  obtain ⟨catalog, hcatalog, hreport⟩ := Option.bind_eq_some_iff.mp hrun
  exact ⟨catalog, report, Catalog.builtFrom_of_ofDeclarations? hcatalog,
    reached_of_nestedReport? hreport, hspec⟩

end Report
end ReportFilters
