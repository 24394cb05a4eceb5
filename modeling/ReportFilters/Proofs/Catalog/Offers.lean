import ReportFilters.Proofs.Catalog.Built

/-! What the types of a built catalog offer. No two operators of a type share a token, the registry
knows them all under their tokens, and the operator that a type falls back to is one of them. -/

namespace ReportFilters

theorem FilterType.operator?_of_mem {type : FilterType}
    (hnodup : (type.operators.map Operator.token).Nodup) {op : Operator} (h : op ∈ type.operators) :
    type.operator? op.token = some op :=
  find?_key_of_mem hnodup h

namespace Catalog.Sound

variable {decls : List Declaration} {registry : Registry} {catalog : Catalog} {type : FilterType}
  (h : catalog.Sound decls registry) (htype : type ∈ catalog.types)
include h htype

theorem nodup_tokens : (type.operators.map Operator.token).Nodup := by
  obtain ⟨path, _, _, hreads⟩ := h.readsOff type htype
  rw [hreads.tokens]
  exact nodup_eraseDups _

theorem lookup?_of_mem {op : Operator} (hop : op ∈ type.operators) :
    registry.lookup? op.token = some op := by
  obtain ⟨path, _, _, hreads⟩ := h.readsOff type htype
  have hmem : some op ∈ (Ancestry.tokens path).map registry.lookup? :=
    hreads.operators ▸ List.mem_map_of_mem hop
  obtain ⟨token, _, hlookup⟩ := List.mem_map.mp hmem
  rw [Registry.token_of_lookup? h.keyed hlookup, hlookup]

theorem knowsOperator_of_mem {op : Operator} (hop : op ∈ type.operators) :
    catalog.knowsOperator op.token = true := by
  have hmem : op.token ∈ registry.tokens := by
    rw [Registry.mem_tokens_iff, h.lookup?_of_mem htype hop]
    rfl
  rw [knowsOperator, h.knownTokens]
  exact List.elem_eq_true_of_mem hmem

theorem mem_of_default {op : Operator} (hop : op ∈ type.defaultOperator) : op ∈ type.operators := by
  obtain ⟨path, _, _, hreads⟩ := h.readsOff type htype
  obtain ⟨other, hother, htoken⟩ := h.offered type htype op hop
  have hmem : some op ∈ (Ancestry.defaultToken path).map registry.lookup? := by
    rw [← hreads.default, Option.mem_def.mp hop]
    rfl
  obtain ⟨token, _, hlookup⟩ := Option.map_eq_some_iff.mp hmem
  rw [← Registry.token_of_lookup? h.keyed hlookup, ← htoken, h.lookup?_of_mem htype hother] at hlookup
  exact Option.some.inj hlookup ▸ hother

theorem mem_of_effectiveDefault {fallback : String} {op : Operator}
    (hop : type.effectiveDefault fallback = some op) : op ∈ type.operators := by
  rcases Option.or_eq_some_iff.mp hop with hdefault | ⟨_, hop⟩
  · exact h.mem_of_default htype hdefault
  rcases Option.or_eq_some_iff.mp hop with hfallback | ⟨_, hfirst⟩
  · exact List.mem_of_find?_eq_some hfallback
  · exact List.mem_of_head? hfirst

theorem exists_effectiveDefault (hconcrete : type.isAbstract = false) (fallback : String) :
    ∃ op, type.effectiveDefault fallback = some op := by
  obtain ⟨first, rest, hoperators⟩ :=
    List.exists_cons_of_ne_nil (h.concrete type htype hconcrete)
  rw [FilterType.effectiveDefault, hoperators, List.head?_cons]
  cases type.defaultOperator with
  | some op => exact ⟨op, rfl⟩
  | none => cases type.operator? fallback <;> exact ⟨_, rfl⟩

end Catalog.Sound
end ReportFilters
