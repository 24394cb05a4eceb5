import Mathlib.Data.Option.Basic
import ReportFilters.Catalog.CostQuery
import ReportFilters.Proofs.Catalog.Resolution

/-! Catalogs that could be built. Each of their types reads off one path of declarations; neither the
declarations beside the path nor the order of registration have a part in it. -/

namespace ReportFilters

def Catalog.BuiltFrom (decls : List Declaration) (ops : List CustomOperator) (catalog : Catalog) :
    Prop :=
  ∃ builder token, CatalogBuilder.empty.registerAll decls = .ok builder ∧
    (builder.withDefaultOperator token).build (Registry.empty.registerAll ops) = .ok catalog

namespace CatalogBuilder

theorem resolves_of_resolveType {registry : Registry} {frozen : FrozenHierarchy}
    {entry : String × Declaration} {type : FilterType}
    (h : resolveType registry frozen entry = .ok type) :
    ∃ settled, frozen.get? entry.1 = some settled ∧
      FilterType.Resolves registry entry.2 settled type := by
  rw [resolveType] at h
  split at h
  next settled hsettled => exact ⟨settled, hsettled, FilterType.resolves_of_resolve h⟩
  next => cases h

structure Builds (builder : CatalogBuilder) (registry : Registry) (catalog : Catalog) : Prop where
  fallback : registry.lookup? builder.defaultOperator = some catalog.fallback
  types : List.Forall₂ (fun entry type => ∃ settled,
      builder.hierarchy.freeze.get? entry.1 = some settled ∧
        FilterType.Resolves registry entry.2 settled type)
    builder.declarations catalog.types
  knownTokens : catalog.knownTokens = registry.tokens

theorem builds_of_build {builder : CatalogBuilder} {registry : Registry} {catalog : Catalog}
    (h : builder.build registry = .ok catalog) : Builds builder registry catalog := by
  rw [build] at h
  obtain ⟨fallback, hfallback, h⟩ := exists_of_bind_eq_ok h
  obtain ⟨types, htypes, h⟩ := exists_of_bind_eq_ok h
  cases h
  exact ⟨Registry.lookup?_of_lookup hfallback,
    (forall₂_of_mapM htypes).imp fun _ _ => resolves_of_resolveType, rfl⟩

theorem Builds.names {builder : CatalogBuilder} {registry : Registry} {catalog : Catalog}
    (h : Builds builder registry catalog) :
    catalog.types.map FilterType.name = builder.declarations.names := by
  symm
  rw [Dictionary.names, ← List.forall₂_eq_eq_eq, List.forall₂_map_left_iff,
    List.forall₂_map_right_iff]
  refine h.types.imp ?_
  rintro entry type ⟨settled, hsettled, hresolves⟩
  exact (hresolves.name.trans (Hierarchy.name_of_get?_freeze hsettled)).symm

end CatalogBuilder

namespace Catalog

structure Sound (decls : List Declaration) (registry : Registry) (catalog : Catalog) : Prop where
  names : catalog.types.map FilterType.name = baseFilter :: decls.map Declaration.name
  nodup : (baseFilter :: decls.map Declaration.name).Nodup
  keyed : registry.IsKeyed
  fallback : ∃ token, registry.lookup? token = some catalog.fallback
  knownTokens : catalog.knownTokens = registry.tokens
  readsOff : ∀ type ∈ catalog.types, ∃ path, Ancestry decls path ∧ StartsAt path type.name ∧
    type.ReadsOff registry path
  offered : ∀ type ∈ catalog.types, ∀ op ∈ type.defaultOperator,
    ∃ other ∈ type.operators, other.token = op.token
  concrete : ∀ type ∈ catalog.types, type.isAbstract = false → type.operators ≠ []

theorem BuiltFrom.sound {decls : List Declaration} {ops : List CustomOperator} {catalog : Catalog}
    (h : catalog.BuiltFrom decls ops) : catalog.Sound decls (Registry.empty.registerAll ops) := by
  obtain ⟨builder, token, hregister, hbuild⟩ := h
  have hregistered := CatalogBuilder.registered_of_registerAll hregister
  have hbuilds := CatalogBuilder.builds_of_build hbuild
  have hkeyed := Registry.isKeyed_registerAll ops
  have hnames : catalog.types.map FilterType.name = baseFilter :: decls.map Declaration.name :=
    hbuilds.names.trans hregistered.entry_names
  refine ⟨hnames, hregistered.nodup, hkeyed, ⟨token, hbuilds.fallback⟩, hbuilds.knownTokens,
    ?_, ?_, ?_⟩
  · intro type htype
    obtain ⟨path, hpath, hstart, hline⟩ :=
      hregistered.described type.name (hnames ▸ List.mem_map_of_mem htype)
    obtain ⟨entry, _, settled, hsettled, hresolves⟩ := exists_of_forall₂_right hbuilds.types htype
    obtain ⟨decl, above, rfl, _⟩ := hpath.head
    obtain ⟨frozen, hfrozen, hfound⟩ := hregistered.settled (List.cons_ne_nil _ _) hline
    have hname : type.name = entry.1 := hresolves.name.trans (Hierarchy.name_of_get?_freeze hsettled)
    rw [hname] at hfrozen
    cases Option.some.inj (hfrozen.symm.trans hsettled)
    exact ⟨_, hpath, hstart, FilterType.readsOff_of_settled hkeyed hfound hresolves⟩
  · intro type htype
    obtain ⟨_, _, _, _, hresolves⟩ := exists_of_forall₂_right hbuilds.types htype
    exact hresolves.offered
  · intro type htype
    obtain ⟨_, _, _, _, hresolves⟩ := exists_of_forall₂_right hbuilds.types htype
    exact hresolves.concrete

theorem type?_of_mem {catalog : Catalog} (hnodup : (catalog.types.map FilterType.name).Nodup)
    {type : FilterType} (h : type ∈ catalog.types) : catalog.type? type.name = some type :=
  find?_key_of_mem hnodup h

theorem Sound.exists_type {decls : List Declaration} {registry : Registry} {catalog : Catalog}
    (h : catalog.Sound decls registry) {path : List Declaration} (hpath : Ancestry decls path)
    {name : String} (hstart : StartsAt path name) :
    ∃ type, catalog.type? name = some type ∧ type.ReadsOff registry path := by
  have hmem : name ∈ catalog.types.map FilterType.name := by
    obtain ⟨decl, above, rfl, hdecl⟩ := hpath.head
    rw [h.names, ← Option.some.inj hstart]
    exact List.mem_map_of_mem (f := Declaration.name) hdecl
  obtain ⟨type, htype, rfl⟩ := List.mem_map.mp hmem
  obtain ⟨other, hother, hsame, hreads⟩ := h.readsOff type htype
  rw [hpath.unique h.nodup hother hstart hsame]
  exact ⟨type, type?_of_mem (h.names ▸ h.nodup) htype, hreads⟩

/-- A catalog has the base type and the declared ones, each with what the declarations on its one
path to the base type say. Any other catalog in which the type has the same path agrees. -/
theorem readsOff_of_builtFrom {decls : List Declaration} {ops : List CustomOperator}
    {catalog : Catalog} (h : catalog.BuiltFrom decls ops) :
    catalog.types.map FilterType.name = baseFilter :: decls.map Declaration.name ∧
    (∀ name ∈ baseFilter :: decls.map Declaration.name, ∃ path type,
      (Ancestry decls path ∧ StartsAt path name) ∧
      (∀ other, Ancestry decls other → StartsAt other name → other = path) ∧
      catalog.type? name = some type ∧ type.ReadsOff (Registry.empty.registerAll ops) path) ∧
    ∀ decls' catalog', BuiltFrom decls' ops catalog' → ∀ path name, Ancestry decls path →
      Ancestry decls' path → StartsAt path name → ∃ type type',
        catalog.type? name = some type ∧ catalog'.type? name = some type' ∧
        type.column = type'.column ∧ type.joins = type'.joins ∧ type.operators = type'.operators ∧
        type.defaultOperator = type'.defaultOperator ∧ type.isHeavy = type'.isHeavy := by
  have hsound := h.sound
  refine ⟨hsound.names, ?_, ?_⟩
  · intro name hname
    obtain ⟨type, htype, rfl⟩ := List.mem_map.mp (hsound.names ▸ hname)
    obtain ⟨path, hpath, hstart, hreads⟩ := hsound.readsOff type htype
    refine ⟨path, type, ⟨hpath, hstart⟩, ?_, type?_of_mem (hsound.names ▸ hsound.nodup) htype, hreads⟩
    intro other hother hsame
    exact hother.unique hsound.nodup hpath hsame hstart
  · intro decls' catalog' h' path name hpath hpath' hstart
    obtain ⟨type, htype, hreads⟩ := hsound.exists_type hpath hstart
    obtain ⟨type', htype', hreads'⟩ := h'.sound.exists_type hpath' hstart
    have hsome : Function.Injective (some : Operator → Option Operator) := Option.some_injective _
    refine ⟨type, type', htype, htype', hreads.column.trans hreads'.column.symm,
      hreads.joins.trans hreads'.joins.symm,
      List.map_injective_iff.mpr hsome (hreads.operators.trans hreads'.operators.symm),
      Option.map_injective hsome (hreads.default.trans hreads'.default.symm),
      hreads.heavy.trans hreads'.heavy.symm⟩

def ofDeclarations? (decls : List Declaration) (ops : List CustomOperator) : Option Catalog := do
  let builder ← (CatalogBuilder.empty.registerAll decls).toOption
  (builder.build (Registry.empty.registerAll ops)).toOption

theorem builtFrom_of_ofDeclarations? {decls : List Declaration} {ops : List CustomOperator}
    {catalog : Catalog} (h : ofDeclarations? decls ops = some catalog) : catalog.BuiltFrom decls ops := by
  obtain ⟨builder, hregister, hbuild⟩ := Option.bind_eq_some_iff.mp h
  exact ⟨builder, builder.defaultOperator, eq_ok_of_toOption_eq_some hregister,
    eq_ok_of_toOption_eq_some hbuild⟩

def nestedDays : List Declaration := [
  { name := "cost_filter", isAbstract := true, joins := [CostQuery.issueJoin], isHeavy := some true },
  { name := "day"
    parent := "cost_filter"
    column := "entries.spent_on"
    uses := [.group .time]
    defaultOperator := some "=d" },
  { name := "booked", parent := "day", uses := [.token "=d ", .token "y", .token "n", .token "=d"] },
  { name := "booked_late", parent := "booked", joins := [CostQuery.issueJoin], uses := [.token "w"] }]

theorem readsOff_bookedLate : ∃ catalog type, BuiltFrom nestedDays [] catalog ∧
    catalog.type? "booked_late" = some type ∧ type.column = "entries.spent_on" ∧
    type.joins = [CostQuery.issueJoin] ∧
    type.operators.map Operator.token = ["=d", "y", "n", "w"] ∧
    type.defaultOperator.map Operator.token = some "=d" ∧ type.isHeavy = true := by
  have hsome : (ofDeclarations? nestedDays []).isSome := by decide +kernel
  obtain ⟨catalog, hcatalog⟩ := Option.isSome_iff_exists.mp hsome
  have hbuilt := builtFrom_of_ofDeclarations? hcatalog
  obtain ⟨-, hreads, -⟩ := readsOff_of_builtFrom hbuilt
  obtain ⟨path, type, -, hunique, htype, hreads⟩ := hreads "booked_late" (by decide)
  have hpath : Ancestry nestedDays (nestedDays.reverse ++ [CatalogBuilder.baseDeclaration]) :=
    .child (by decide) rfl (.child (by decide) rfl (.child (by decide) rfl
      (.child (by decide) rfl .base)))
  cases hunique _ hpath rfl
  refine ⟨catalog, type, hbuilt, htype, hreads.column.trans ?_, hreads.joins.trans ?_,
    hreads.tokens.trans ?_, hreads.defaultToken.trans ?_, hreads.heavy.trans ?_⟩ <;> decide +kernel

end Catalog
end ReportFilters
