import ReportFilters.Proofs.Report.Reached

/-! Everything an application can get from a built catalog: filters, edited or not, chains of them, and
the chains of reports. Wherever a filter is met, its operator is one that its type offers. -/

namespace ReportFilters

inductive Item where
  | filter (f : Filter)
  | chain (c : Chain)

namespace Item

def filters : Item → List Filter
  | .filter f => [f]
  | .chain c => c.filters

end Item

namespace Catalog

inductive Reachable (catalog : Catalog) : Item → Prop
  | newFilter {name : String} {f : Filter} (h : catalog.newFilter name = .ok f) :
    Reachable catalog (.filter f)
  | newFilterDefaulting {name fallback : String} {f : Filter}
    (h : catalog.newFilterDefaulting name fallback = .ok f) : Reachable catalog (.filter f)
  | newFilterWith {name : String} {operator : Option String} {values : List Value} {f : Filter}
    (h : catalog.newFilterWith name operator values = .ok f) : Reachable catalog (.filter f)
  | edit {f g : Filter} (hf : Reachable catalog (.filter f)) {e : Edit} (h : f.edit e = .ok g) :
    Reachable catalog (.filter g)
  | empty : Reachable catalog (.chain Chain.empty)
  | prepend {chain : Chain} {f : Filter} (hchain : Reachable catalog (.chain chain))
    (hf : Reachable catalog (.filter f)) (id : NodeId) : Reachable catalog (.chain (chain.prepend id f))
  | update {chain next : Chain} (hchain : Reachable catalog (.chain chain)) {id : NodeId}
    {edit : Filter → Filter} (hedit : ∀ f : Filter, f.Edits (edit f))
    (h : chain.updateFilter id edit = some next) : Reachable catalog (.chain next)
  | taken {chain : Chain} (hchain : Reachable catalog (.chain chain)) {f : Filter}
    (hf : f ∈ chain.filters) : Reachable catalog (.filter f)
  | report {settings : Settings} {report : Report} (h : Report.Reached catalog settings report) :
    Reachable catalog (.chain report.chain)

theorem Sound.fits_of_reachable {decls : List Declaration} {registry : Registry} {catalog : Catalog}
    (hsound : catalog.Sound decls registry) {item : Item} (h : Reachable catalog item) :
    ∀ f ∈ item.filters, f.Fits catalog := by
  induction h with
  | newFilter h | newFilterDefaulting h =>
    intro f hf
    rw [List.mem_singleton.mp hf]
    exact (hsound.fits_of_newFilterDefaulting h).1
  | newFilterWith h =>
    intro f hf
    rw [List.mem_singleton.mp hf]
    exact (hsound.fits_of_buildFilter h).1
  | edit _ hedit ih =>
    intro g hg
    rw [List.mem_singleton.mp hg]
    exact ((ih _ (List.mem_singleton_self _)).edits (.single ⟨_, hedit⟩)).1
  | empty => exact fun _ hf => nomatch hf
  | prepend _ _ _ ihchain ihf =>
    intro g hg
    rcases List.mem_cons.mp hg with rfl | hg
    · exact ihf _ (List.mem_singleton_self _)
    · exact ihchain g hg
  | update _ hedit hnext ih =>
    intro g hg
    rcases Chain.mem_filters_of_updateFilter hnext hg with hg | ⟨f, hf, rfl⟩
    · exact ih g hg
    · exact ((ih f hf).edits (hedit f)).1
  | taken _ hf ih =>
    intro g hg
    rw [List.mem_singleton.mp hg]
    exact ih _ hf
  | report h => exact fun f hf => ((h.fits hsound).filters f hf).1

structure Holds (catalog : Catalog) (f : Filter) : Prop where
  type : catalog.type? f.name = some f.type
  concrete : f.type.isAbstract = false
  operator : f.operator ∈ f.type.operators
  nonempty : f.type.operators ≠ []
  nodup : (f.type.operators.map Operator.token).Nodup

/-- An operator assigned or not, a filter's operator is one its type offers. A token that the type does
not offer is refused, with the edits before it kept. A new filter of a concrete type is never refused,
whatever its fallback, so the only refusals are for unknown and abstract types. -/
theorem holds_of_reachable {decls : List Declaration} {ops : List CustomOperator} {catalog : Catalog}
    (h : catalog.BuiltFrom decls ops) :
    (∀ item, Reachable catalog item → ∀ f ∈ item.filters, catalog.Holds f) ∧
    (∀ (f g : Filter) (edits : List Edit) (failure : Error), f.editAll edits = (g, some failure) →
      ∃ done token later, edits = done ++ .operator token :: later ∧ f.editAll done = (g, none) ∧
        token ∉ g.type.operators.map Operator.token ∧
        failure = Error.operatorNotSupported g.name token) ∧
    (∀ name fallback type, catalog.type? name = some type → type.isAbstract = false →
      ∃ f, catalog.newFilterDefaulting name fallback = .ok f ∧ f.type = type) ∧
    ∀ name fallback failure, catalog.newFilterDefaulting name fallback = .error failure →
      failure = Error.unknownFilterType name ∨ failure = Error.abstractConstruction name := by
  have hsound := h.sound
  refine ⟨?_, ?_, ?_, ?_⟩
  · intro item hitem f hf
    have hfits := hsound.fits_of_reachable hitem f hf
    exact ⟨type?_of_mem (hsound.names ▸ hsound.nodup) hfits.type, hfits.concrete, hfits.operator,
      List.ne_nil_of_mem hfits.operator, hsound.nodup_tokens hfits.type⟩
  · intro f g edits failure hedits
    obtain ⟨done, token, later, rfl, hdone, hfails⟩ := Filter.editAll_eq_failure hedits
    obtain ⟨rfl, htoken⟩ := Filter.setOperator_eq_error hfails
    exact ⟨done, token, later, rfl, hdone, htoken, rfl⟩
  · exact fun _ fallback _ htype hconcrete => hsound.exists_newFilterDefaulting htype hconcrete fallback
  · intro name fallback failure hfailure
    rcases hsound.newFilterDefaulting_eq_error hfailure with ⟨_, he⟩ | ⟨_, _, _, he⟩
    · exact .inl he
    · exact .inr he

theorem holds_of_nestedReport : ∃ catalog chain, BuiltFrom nestedDays [] catalog ∧
    Reachable catalog (.chain chain) ∧ chain.filters.map Filter.name = ["day", "booked_late"] ∧
    ∀ f ∈ chain.filters, catalog.Holds f := by
  obtain ⟨catalog, report, hcatalog, hreport, hspec⟩ := Report.exists_nestedReport
  have hnames : (report.spec.filters.map FilterSpec.name) = ["day", "booked_late"] := by rw [hspec]; rfl
  rw [Report.spec, List.map_map] at hnames
  obtain ⟨hholds, -⟩ := holds_of_reachable hcatalog
  exact ⟨catalog, report.chain, hcatalog, .report hreport, hnames, hholds _ (.report hreport)⟩

end Catalog
end ReportFilters
