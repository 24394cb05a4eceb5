import ReportFilters.Proofs.Report.Reached

/-! Reports rebuilt from their definitions. A filter is made anew from what its definition keeps of
it, however it came to be, and the filters of a definition are added in the order in which they
stand in the report. Nothing that a report says or compiles to depends on node ids. -/

namespace ReportFilters

theorem Catalog.Sound.buildFilter_spec {decls : List Declaration} {registry : Registry}
    {catalog : Catalog} (hsound : catalog.Sound decls registry) {fallback : String} {f : Filter}
    (hfits : f.Fits catalog) (hdefault : f.type.effectiveDefault fallback = some f.default) :
    catalog.buildFilter f.spec.name fallback f.spec.operator f.spec.values = .ok f := by
  have hnew : catalog.newFilterDefaulting f.spec.name fallback
      = .ok { type := f.type, default := f.default } :=
    newFilterDefaulting_eq_ok_iff.mpr ⟨f.type, f.default,
      type?_of_mem (hsound.names ▸ hsound.nodup) hfits.type, hfits.concrete, hdefault, rfl⟩
  obtain ⟨type, default, explicit, values⟩ := f
  -- an operator that is not assigned is not in the definition, and the new filter has none either
  cases explicit with
  | none =>
    rw [buildFilter, hnew]
    rfl
  | some op =>
    have hop : op ∈ type.operators := hfits.explicit op rfl
    refine (buildFilter_some hnew op.token values).trans ?_
    rw [assignOperator, hsound.knowsOperator_of_mem hfits.type hop, if_pos rfl, Filter.setOperator,
      FilterType.operator?_of_mem (hsound.nodup_tokens hfits.type) hop]
    rfl

namespace Report

section
variable {decls : List Declaration} {registry : Registry} {catalog : Catalog} {settings : Settings}
  (hsound : catalog.Sound decls registry)
include hsound

theorem addAll_specs {report : Report} (hcatalog : report.catalog = catalog)
    (hsettings : report.settings = settings) (id : NodeId) {bottomUp : List Filter}
    (hfits : ∀ f ∈ bottomUp,
      f.Fits catalog ∧ f.type.effectiveDefault settings.defaultToken = some f.default) :
    ∃ next, report.addAll id (bottomUp.map Filter.spec) = .ok next ∧ next.settings = settings ∧
      next.chain.filters = bottomUp.reverse ++ report.chain.filters := by
  induction bottomUp generalizing report id with
  | nil => exact ⟨report, rfl, hsettings, rfl⟩
  | cons f above ih =>
    obtain ⟨hf, hdefault⟩ := hfits f (List.mem_cons_self ..)
    have hadded : report.filter id f.spec.name f.spec.operator f.spec.values
        = .ok { report with chain := report.chain.prepend id f } := by
      rw [Report.filter, hcatalog, hsettings, hsound.buildFilter_spec hf hdefault]
      rfl
    have habove := fun g hg => hfits g (List.mem_cons_of_mem f hg)
    obtain ⟨next, hnext, hsame, hfilters⟩ :=
      @ih { report with chain := report.chain.prepend id f } hcatalog hsettings id.next habove
    refine ⟨next, ?_, hsame, ?_⟩
    · rw [List.map_cons, addAll, hadded]
      exact hnext
    · rw [hfilters, List.reverse_cons, List.append_assoc]
      rfl

end

theorem compileAt_congr {report other : Report} (hsettings : report.settings = other.settings)
    (hfilters : report.chain.filters = other.chain.filters) (now : Instant) :
    report.compileAt now = other.compileAt now := by
  have hcompile : report.chain.compile = other.chain.compile := by
    funext table dialect clock
    rw [Chain.compile, Chain.assemble, Chain.bottomUp, hfilters]
    rfl
  rw [compileAt, compileAt, hsettings, hcompile]

/-- Whatever calls a report was put together by, its definition gives back a report with the same
filters in the same order, which has the same definition, validates alike and compiles alike. -/
theorem exists_ofSpec_spec {decls : List Declaration} {ops : List CustomOperator}
    {catalog : Catalog} {settings : Settings} {report : Report}
    (hcatalog : catalog.BuiltFrom decls ops) (h : Reached catalog settings report)
    (first : NodeId) :
    ∃ rebuilt, ofSpec catalog settings first report.spec = .ok rebuilt ∧
      rebuilt.chain.length = report.chain.length ∧
      rebuilt.chain.filters = report.chain.filters ∧ rebuilt.spec = report.spec ∧
      rebuilt.isValid = report.isValid ∧ rebuilt.errors = report.errors ∧
      ∀ now, rebuilt.compileAt now = report.compileAt now := by
  have hfits := h.fits hcatalog.sound
  have hfilters := fun f (hf : f ∈ report.chain.bottomUp) => hfits.filters f (List.mem_reverse.mp hf)
  obtain ⟨rebuilt, hrebuilt, hsettings, hfilters⟩ :=
    addAll_specs hcatalog.sound fits_empty.sameCatalog fits_empty.sameSettings first hfilters
  have hsame : rebuilt.chain.filters = report.chain.filters := by
    rw [hfilters, Chain.bottomUp, List.reverse_reverse]
    exact List.append_nil _
  have hlength : ∀ chain : Chain, chain.length = chain.filters.length := fun _ =>
    (List.length_map _).symm
  refine ⟨rebuilt, ?_, ?_, hsame, ?_, ?_, ?_, ?_⟩
  · rw [ofSpec, spec, ← List.map_reverse]
    exact hrebuilt
  · rw [hlength, hlength, hsame]
  · rw [spec, spec, hsame]
  · rw [isValid, isValid, Chain.isValid, Chain.isValid, hsame]
  · rw [errors, errors, Chain.errors, Chain.errors, Chain.bottomUp, Chain.bottomUp, hsame]
  · exact compileAt_congr (hsettings.trans hfits.sameSettings.symm) hsame

theorem exists_ofSpec_nestedReport : ∃ catalog report rebuilt,
    Catalog.BuiltFrom Catalog.nestedDays [] catalog ∧ Reached catalog {} report ∧
    ofSpec catalog {} .first ⟨[{ name := "day", operator := some "w" },
      { name := "booked_late", operator := some "y", values := [.bool true] }]⟩ = .ok rebuilt ∧
    rebuilt.chain.filters = report.chain.filters := by
  obtain ⟨catalog, report, hcatalog, hreport, hspec⟩ := exists_nestedReport
  obtain ⟨rebuilt, hrebuilt, -, hfilters, -⟩ := exists_ofSpec_spec hcatalog hreport .first
  rw [hspec] at hrebuilt
  exact ⟨catalog, report, rebuilt, hcatalog, hreport, hrebuilt, hfilters⟩

end Report
end ReportFilters
