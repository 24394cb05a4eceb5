import ReportFilters.Proofs.Catalog.Built
import ReportFilters.Proofs.Hierarchy.Loops

/-! Descent from the base type. A builder gets its hierarchy by calls on the single base type, so the
types of a catalog are in order as those of any grown hierarchy, and all their ways lead to the base
type. -/

namespace ReportFilters

theorem Ancestry.base_mem {decls path : List Declaration} (h : Ancestry decls path) :
    CatalogBuilder.baseDeclaration ∈ path := by
  induction h with
  | base => exact List.mem_singleton_self _
  | child _ _ _ ih => exact List.mem_cons_of_mem _ ih

namespace CatalogBuilder
open Hierarchy

theorem grown_setUnless {h next : Hierarchy} (hh : Grown h) {skip : Bool} {name attr : String}
    {values : List AttributeValue} (hnext : setUnless skip name attr values h = .ok next) :
    Grown next := by
  rw [setUnless] at hnext
  split at hnext
  · cases hnext
    exact hh
  · exact hh.of_result (Call.write name attr (.set values)) hnext

theorem grown_stopOperators {h next : Hierarchy} (hh : Grown h) {decl : Declaration}
    (hnext : stopOperators decl h = .ok next) : Grown next := by
  rw [stopOperators] at hnext
  generalize decl.uses.filter OperatorUse.replacesInherited = uses at hnext
  induction uses generalizing h with
  | nil =>
    cases hnext
    exact hh
  | cons use rest ih =>
    rw [List.foldlM_cons] at hnext
    obtain ⟨stopped, hstop, hnext⟩ := exists_of_bind_eq_ok hnext
    exact ih (hh.of_result (Call.write decl.name Attribute.availableOperators .stop) hstop) hnext

theorem grown_register {builder next : CatalogBuilder} (hh : Grown builder.hierarchy)
    {decl : Declaration} (hnext : builder.register decl = .ok next) : Grown next.hierarchy := by
  obtain ⟨added, hadd, hnext⟩ := exists_of_bind_eq_ok hnext
  obtain ⟨stopped, hstop, hnext⟩ := exists_of_bind_eq_ok hnext
  have hstopped := grown_stopOperators (hh.of_result (.addType decl.name (some decl.parent)) hadd) hstop
  obtain ⟨h₁, hset₁, hnext⟩ := exists_of_bind_eq_ok hnext
  obtain ⟨h₂, hset₂, hnext⟩ := exists_of_bind_eq_ok hnext
  obtain ⟨h₃, hset₃, hnext⟩ := exists_of_bind_eq_ok hnext
  obtain ⟨h₄, hset₄, hnext⟩ := exists_of_bind_eq_ok hnext
  obtain ⟨h₅, hset₅, hnext⟩ := exists_of_bind_eq_ok hnext
  obtain ⟨h₆, hset₆, hnext⟩ := exists_of_bind_eq_ok hnext
  cases hnext
  have hgiven := grown_setUnless (grown_setUnless (grown_setUnless hstopped hset₁) hset₂) hset₃
  exact grown_setUnless (grown_setUnless (grown_setUnless hgiven hset₄) hset₅) hset₆

theorem grown_registerAll {decls : List Declaration} {builder next : CatalogBuilder}
    (hh : Grown builder.hierarchy) (hnext : builder.registerAll decls = .ok next) :
    Grown next.hierarchy := by
  induction decls generalizing builder with
  | nil =>
    cases hnext
    exact hh
  | cons decl rest ih =>
    rw [registerAll, List.foldlM_cons] at hnext
    obtain ⟨registered, hregister, hnext⟩ := exists_of_bind_eq_ok hnext
    exact ih (grown_register hh hregister) hnext

theorem hierarchy_of_build {builder : CatalogBuilder} {registry : Registry} {catalog : Catalog}
    (h : builder.build registry = .ok catalog) : catalog.hierarchy = builder.hierarchy.freeze := by
  rw [build] at h
  obtain ⟨fallback, _, h⟩ := exists_of_bind_eq_ok h
  obtain ⟨types, _, h⟩ := exists_of_bind_eq_ok h
  cases h
  rfl

theorem Registered.isA_baseFilter {decls : List Declaration} {builder : CatalogBuilder}
    (h : Registered decls builder) (hh : builder.hierarchy.Ordered) {name : String}
    (hname : name ∈ builder.hierarchy.names) : builder.hierarchy.freeze.isA name baseFilter = true := by
  obtain ⟨path, hpath, _, hline⟩ := h.described name (h.names ▸ hname)
  obtain ⟨root, hroot, hdescribes⟩ := exists_of_forall₂_right hline hpath.base_mem
  have hknown : builder.hierarchy.contains name = true := by
    rw [contains_iff_mem]
    exact List.mem_reverse.mp hname
  obtain ⟨node, hnode⟩ := Option.isSome_iff_exists.mp hknown
  have hbase : root.name = baseFilter := hdescribes.name
  rw [hh.isA_eq, hh.ancestry_of_node? hnode, List.contains_iff_mem, ← hbase]
  exact List.mem_map_of_mem hroot

end CatalogBuilder

namespace Catalog
open Hierarchy

/-- The types of a hierarchy are in order however it has grown. Those of a catalog are of such a
hierarchy, and all of them descend from the base type. -/
theorem arranged_types :
    (∀ h : Hierarchy, Grown h → h.Arranged) ∧
      ∀ decls ops catalog, BuiltFrom decls ops catalog → ∃ h : Hierarchy, Grown h ∧
        catalog.hierarchy = h.freeze ∧ catalog.types.map FilterType.name = h.names ∧
        ∀ type ∈ catalog.types, catalog.isA type.name baseFilter = true := by
  refine ⟨fun h hh => hh.ordered.arranged, ?_⟩
  rintro decls ops catalog ⟨builder, token, hregister, hbuild⟩
  have hgrown : Grown builder.hierarchy := CatalogBuilder.grown_registerAll (.ofRoot ..) hregister
  have hregistered := CatalogBuilder.registered_of_registerAll hregister
  have hbuilds := CatalogBuilder.builds_of_build hbuild
  have hfrozen : catalog.hierarchy = builder.hierarchy.freeze :=
    (CatalogBuilder.hierarchy_of_build hbuild).trans rfl
  have hnames : catalog.types.map FilterType.name = builder.hierarchy.names :=
    hbuilds.names.trans (hregistered.entry_names.trans hregistered.names.symm)
  refine ⟨builder.hierarchy, hgrown, hfrozen, hnames, fun type htype => ?_⟩
  rw [Catalog.isA, hfrozen]
  exact hregistered.isA_baseFilter hgrown.ordered (hnames ▸ List.mem_map_of_mem htype)

def tangledCalls : List Call := [
  .addType "a" none, .addType "b" (some "a"), .addType "a" (some "b"), .addType "d" (some "c"),
  .write "b" "x" (.set [.int 1]), .addType "c" (some "b")]

theorem arranged_types_tangled :
    ((Hierarchy.empty.afterAll tangledCalls).names = ["a", "b", "c"] ∧
      (Hierarchy.empty.afterAll tangledCalls).freeze.isA "c" "a" = true ∧
      (Hierarchy.empty.afterAll tangledCalls).Arranged) ∧
    ∃ catalog h, BuiltFrom nestedDays [] catalog ∧ Grown h ∧ catalog.hierarchy = h.freeze ∧
      catalog.types.map FilterType.name = h.names ∧
      ∀ type ∈ catalog.types, catalog.isA type.name baseFilter = true := by
  constructor
  · have hgrown : Grown (Hierarchy.empty.afterAll tangledCalls) := Grown.empty.calls tangledCalls
    exact ⟨by decide +kernel, by decide +kernel, arranged_types.1 _ hgrown⟩
  · have hsome : (ofDeclarations? nestedDays []).isSome := by decide +kernel
    obtain ⟨catalog, hcatalog⟩ := Option.isSome_iff_exists.mp hsome
    have hbuilt := builtFrom_of_ofDeclarations? hcatalog
    obtain ⟨h, hh⟩ := arranged_types.2 nestedDays [] catalog hbuilt
    exact ⟨catalog, h, hbuilt, hh⟩

end Catalog
end ReportFilters
