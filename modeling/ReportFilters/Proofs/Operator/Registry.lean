import ReportFilters.Operator.Registry

/-! Registries put together by registration. An operator is found under its own token and no other,
and the tokens a registry lists are those it finds operators for. -/

namespace ReportFilters

namespace Registry

def registerAll (registry : Registry) (ops : List CustomOperator) : Registry :=
  ops.foldl (fun registry op => (registry.register op).2) registry

def IsKeyed (registry : Registry) : Prop :=
  ∀ token op, registry.custom.get? token = some op → op.token = token

theorem IsKeyed.register {registry : Registry} (h : registry.IsKeyed) (op : CustomOperator) :
    (registry.register op).2.IsKeyed := by
  intro token other hget
  rw [Registry.register, Dictionary.get?_put] at hget
  split at hget
  · cases hget
    exact (‹token = op.token›).symm
  · exact h token other hget

theorem isKeyed_registerAll (ops : List CustomOperator) : (empty.registerAll ops).IsKeyed := by
  have hrun : ∀ registry : Registry, registry.IsKeyed → (registry.registerAll ops).IsKeyed := by
    induction ops with
    | nil => exact fun registry h => h
    | cons op rest ih => exact fun registry h => ih _ (h.register op)
  exact hrun empty fun token op hget => nomatch hget

theorem lookup?_of_lookup {registry : Registry} {token : String} {op : Operator}
    (h : registry.lookup token = .ok op) : registry.lookup? token = some op := by
  rw [lookup] at h
  split at h
  next hop =>
    cases h
    exact hop
  next => cases h

theorem token_of_lookup? {registry : Registry} (h : registry.IsKeyed) {token : String}
    {op : Operator} (hop : registry.lookup? token = some op) : op.token = token := by
  rw [lookup?] at hop
  split at hop
  next custom hcustom =>
    cases hop
    exact h token custom hcustom
  next =>
    obtain ⟨builtin, hbuiltin, rfl⟩ := Option.map_eq_some_iff.mp hop
    have htoken := List.find?_some hbuiltin
    exact of_decide_eq_true htoken

theorem mem_tokens_iff (registry : Registry) (token : String) :
    token ∈ registry.tokens ↔ (registry.lookup? token).isSome := by
  have hcustom : token ∈ registry.custom.names ↔ (registry.custom.get? token).isSome := by
    rw [Option.isSome_iff_ne_none, ne_eq, Dictionary.get?_eq_none_iff, Decidable.not_not]
  have hbuiltin : token ∈ Builtin.all.map Builtin.token ↔ (Builtin.ofToken? token).isSome := by
    simp [Builtin.ofToken?, List.find?_isSome]
  have hlookup : (registry.lookup? token).isSome ↔
      (registry.custom.get? token).isSome ∨ (Builtin.ofToken? token).isSome := by
    rw [lookup?]
    cases registry.custom.get? token <;> simp
  rw [hlookup, ← hcustom, ← hbuiltin, tokens, List.mem_append, List.mem_filter]
  by_cases h : token ∈ Builtin.all.map Builtin.token <;> simp [h]

end Registry
end ReportFilters
