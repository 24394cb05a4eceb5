import ReportFilters.Proofs.Filter.Membership

/-! Making a filter of a type of the catalog. A type that is not there, a type that filters are not made of,
an operator that is not there and one that the type does not offer are looked for one after the other, and
there is a filter if none of this is found. -/

namespace ReportFilters

namespace FilterType

theorem operator?_eq_none_iff {type : FilterType} {token : String} :
    type.operator? token = none ↔ token ∉ type.operators.map Operator.token := by
  rw [operator?, List.find?_eq_none]
  simp

theorem mem_of_operator? {type : FilterType} {token : String} {op : Operator}
    (h : type.operator? token = some op) : op ∈ type.operators ∧ op.token = token := by
  have htoken := List.find?_some h
  exact ⟨List.mem_of_find?_eq_some h, of_decide_eq_true htoken⟩

structure StandsIn (type : FilterType) (fallback : String) (op : Operator) : Prop where
  own : ∀ other ∈ type.defaultOperator, op = other
  preferred : type.defaultOperator = none → fallback ∈ type.operators.map Operator.token →
    op ∈ type.operators ∧ op.token = fallback
  first : type.defaultOperator = none → fallback ∉ type.operators.map Operator.token →
    type.operators.head? = some op

theorem standsIn_of_effectiveDefault {type : FilterType} {fallback : String} {op : Operator}
    (h : type.effectiveDefault fallback = some op) : type.StandsIn fallback op := by
  rw [effectiveDefault] at h
  refine ⟨?_, ?_, ?_⟩
  · intro other hother
    rw [Option.mem_def.mp hother] at h
    exact (Option.some.inj h).symm
  · intro hnone hoffered
    obtain ⟨found, hfound⟩ := Option.ne_none_iff_exists'.mp (mt operator?_eq_none_iff.mp (not_not_intro hoffered))
    rw [hnone, hfound] at h
    cases h
    exact mem_of_operator? hfound
  · intro hnone hoffered
    rwa [hnone, operator?_eq_none_iff.mpr hoffered] at h

end FilterType

namespace Catalog

inductive Refusal (catalog : Catalog) (registry : Registry) (name : String) : Option String → Error → Prop
  | unknownType {operator : Option String} (hname : catalog.type? name = none) :
    Refusal catalog registry name operator (Error.unknownFilterType name)
  | abstractType {operator : Option String} {type : FilterType} (htype : catalog.type? name = some type)
    (habstract : type.isAbstract = true) :
    Refusal catalog registry name operator (Error.abstractConstruction name)
  | unknownOperator {type : FilterType} (htype : catalog.type? name = some type)
    (hconcrete : type.isAbstract = false) {token : String} (htoken : registry.lookup? token = none) :
    Refusal catalog registry name (some token) ((Error.unknownOperator token).withFilter name)
  | notOffered {type : FilterType} (htype : catalog.type? name = some type)
    (hconcrete : type.isAbstract = false) {token : String} (hknown : registry.lookup? token ≠ none)
    (hoffered : token ∉ type.operators.map Operator.token) :
    Refusal catalog registry name (some token) (Error.operatorNotSupported name token)

theorem Refusal.unique {catalog : Catalog} {registry : Registry} {name : String} {operator : Option String}
    {e e' : Error} (h : catalog.Refusal registry name operator e)
    (h' : catalog.Refusal registry name operator e') : e = e' := by
  cases h <;> cases h' <;> grind

def Offers (catalog : Catalog) (name : String) (operator : Option String) : Prop :=
  ∃ type, catalog.type? name = some type ∧ type.isAbstract = false ∧
    ∀ token ∈ operator, token ∈ type.operators.map Operator.token

structure Makes (catalog : Catalog) (name fallback : String) (operator : Option String)
    (values : List Value) (f : Filter) : Prop where
  type : catalog.type? name = some f.type
  values : f.values = values
  assigned : f.explicit.map Operator.token = operator
  offered : f.operator ∈ f.type.operators
  unassigned : operator = none → f.type.StandsIn fallback f.operator

theorem buildFilter_of_unknown {catalog : Catalog} {name : String} (h : catalog.type? name = none)
    (fallback : String) (operator : Option String) (values : List Value) :
    catalog.buildFilter name fallback operator values = .error (Error.unknownFilterType name) := by
  rw [buildFilter, newFilterDefaulting, Catalog.type, h]
  simp only [error_bind]

theorem buildFilter_of_isAbstract {catalog : Catalog} {name : String} {type : FilterType}
    (h : catalog.type? name = some type) (habstract : type.isAbstract = true) (fallback : String)
    (operator : Option String) (values : List Value) :
    catalog.buildFilter name fallback operator values = .error (Error.abstractConstruction name) := by
  have hnew : catalog.newFilterDefaulting name fallback = .error (Error.abstractConstruction name) := by
    rw [newFilterDefaulting, type_of_type? h, ok_bind, if_pos habstract]
  rw [buildFilter, hnew, error_bind]

theorem name_of_type? {catalog : Catalog} {name : String} {type : FilterType}
    (h : catalog.type? name = some type) : type.name = name := by
  have hname := List.find?_some h
  exact of_decide_eq_true hname

section
variable {decls : List Declaration} {registry : Registry} {catalog : Catalog}
  (hsound : catalog.Sound decls registry) {name fallback : String} {type : FilterType}
include hsound

theorem Sound.knowsOperator_iff (token : String) :
    catalog.knowsOperator token = true ↔ registry.lookup? token ≠ none := by
  rw [knowsOperator, hsound.knownTokens, List.contains_iff_mem, Registry.mem_tokens_iff,
    Option.isSome_iff_ne_none]

theorem Sound.assignOperator_cases {f : Filter} (hname : catalog.type? name = some f.type)
    (hconcrete : f.type.isAbstract = false) (token : String) :
    (∃ e, catalog.Refusal registry name (some token) e ∧ catalog.assignOperator f name token = .error e) ∨
      ∃ op ∈ f.type.operators, op.token = token ∧
        catalog.assignOperator f name token = .ok { f with explicit := some op } := by
  rw [assignOperator]
  by_cases hknown : catalog.knowsOperator token
  · rw [if_pos hknown, Filter.setOperator]
    cases hop : f.type.operator? token with
    | none =>
      have hoffered := FilterType.operator?_eq_none_iff.mp hop
      refine .inl ⟨_, .notOffered hname hconcrete ((hsound.knowsOperator_iff token).mp hknown) hoffered, ?_⟩
      rw [Filter.name, name_of_type? hname]
    | some op =>
      obtain ⟨hmem, htoken⟩ := FilterType.mem_of_operator? hop
      exact .inr ⟨op, hmem, htoken, rfl⟩
  · have htoken : registry.lookup? token = none := by
      by_contra hfound
      exact hknown ((hsound.knowsOperator_iff token).mpr hfound)
    rw [if_neg hknown]
    exact .inl ⟨_, .unknownOperator hname hconcrete htoken, rfl⟩

theorem Sound.buildFilter_cases (name fallback : String) (operator : Option String) (values : List Value) :
    (∃ e, catalog.Refusal registry name operator e ∧
        catalog.buildFilter name fallback operator values = .error e) ∨
      ∃ f, (catalog.Offers name operator ∧ catalog.Makes name fallback operator values f) ∧
        catalog.buildFilter name fallback operator values = .ok f := by
  cases htype : catalog.type? name with
  | none => exact .inl ⟨_, .unknownType htype, buildFilter_of_unknown htype ..⟩
  | some type =>
    cases hconcrete : type.isAbstract with
    | true => exact .inl ⟨_, .abstractType htype hconcrete, buildFilter_of_isAbstract htype hconcrete ..⟩
    | false =>
      have hmem := List.mem_of_find?_eq_some htype
      obtain ⟨default, hdefault⟩ := hsound.exists_effectiveDefault hmem hconcrete fallback
      have hnew : catalog.newFilterDefaulting name fallback = .ok { type, default } :=
        newFilterDefaulting_eq_ok_iff.mpr ⟨type, default, htype, hconcrete, hdefault, rfl⟩
      cases operator with
      | none =>
        rw [buildFilter, hnew]
        refine .inr ⟨{ type, default, values }, ⟨⟨type, htype, hconcrete, ?_⟩, htype, rfl, rfl,
          hsound.mem_of_effectiveDefault hmem hdefault, ?_⟩, rfl⟩
        · intro token htoken
          cases htoken
        · intro _
          exact FilterType.standsIn_of_effectiveDefault hdefault
      | some token =>
        rcases hsound.assignOperator_cases (f := { type, default }) htype hconcrete token with
          ⟨e, hrefusal, hassigned⟩ | ⟨op, hop, rfl, hassigned⟩
        · refine .inl ⟨e, hrefusal, ?_⟩
          rw [buildFilter_some hnew, hassigned]
          rfl
        · refine .inr ⟨{ type, default, explicit := some op, values }, ⟨⟨type, htype, hconcrete, ?_⟩, htype,
            rfl, rfl, hop, ?_⟩, ?_⟩
          · rintro _ ⟨⟩
            exact List.mem_map_of_mem hop
          · intro hnone
            cases hnone
          · rw [buildFilter_some hnew, hassigned]
            rfl

theorem Sound.not_refusal_of_offers {operator : Option String} (h : catalog.Offers name operator)
    (e : Error) : ¬catalog.Refusal registry name operator e := by
  obtain ⟨type, htype, hconcrete, hoffered⟩ := h
  intro hrefusal
  cases hrefusal with
  | unknownType hname => cases htype.symm.trans hname
  | abstractType htype' habstract =>
    cases htype.symm.trans htype'
    cases hconcrete.symm.trans habstract
  | unknownOperator htype' _ htoken =>
    cases htype.symm.trans htype'
    obtain ⟨op, hop, rfl⟩ := List.mem_map.mp (hoffered _ rfl)
    cases htoken.symm.trans (hsound.lookup?_of_mem (List.mem_of_find?_eq_some htype) hop)
  | notOffered htype' _ _ hnot =>
    cases htype.symm.trans htype'
    exact hnot (hoffered _ rfl)

theorem Sound.buildFilter_eq_error_iff {operator : Option String} {values : List Value} {e : Error} :
    catalog.buildFilter name fallback operator values = .error e ↔
      catalog.Refusal registry name operator e := by
  rcases hsound.buildFilter_cases name fallback operator values with
    ⟨e', hrefusal, he'⟩ | ⟨f, ⟨hoffers, -⟩, hf⟩
  · rw [he', error_eq_error_iff]
    refine ⟨fun heq => heq ▸ hrefusal, fun h => h.unique hrefusal⟩
  · rw [hf]
    exact iff_of_false (fun h => nomatch h) (hsound.not_refusal_of_offers hoffers e)

theorem Sound.exists_buildFilter_eq_ok_iff {operator : Option String} {values : List Value} :
    (∃ f, catalog.buildFilter name fallback operator values = .ok f) ↔ catalog.Offers name operator := by
  rcases hsound.buildFilter_cases name fallback operator values with
    ⟨e, hrefusal, he⟩ | ⟨f, ⟨hoffers, -⟩, hf⟩
  · rw [he]
    exact iff_of_false (fun ⟨_, h⟩ => nomatch h) fun hoffers => hsound.not_refusal_of_offers hoffers e hrefusal
  · exact iff_of_true ⟨f, hf⟩ hoffers

theorem Sound.makes_of_buildFilter {operator : Option String} {values : List Value} {f : Filter}
    (h : catalog.buildFilter name fallback operator values = .ok f) :
    catalog.Makes name fallback operator values f := by
  rcases hsound.buildFilter_cases name fallback operator values with
    ⟨e, -, he⟩ | ⟨g, ⟨-, hmakes⟩, hg⟩
  · cases he.symm.trans h
  · cases hg.symm.trans h
    exact hmakes

end

theorem BuiltFrom.exists_type {decls : List Declaration} {ops : List CustomOperator} {catalog : Catalog}
    (h : catalog.BuiltFrom decls ops) {decl : Declaration}
    (hdecl : decl ∈ CatalogBuilder.baseDeclaration :: decls) :
    ∃ type, catalog.type? decl.name = some type ∧ type.isAbstract = decl.isAbstract := by
  have hsound := h.sound
  obtain ⟨builder, token, hregister, hbuild⟩ := h
  have hregistered := CatalogBuilder.registered_of_registerAll hregister
  have hbuilds := CatalogBuilder.builds_of_build hbuild
  have hentry : (decl.name, decl) ∈ builder.declarations := by
    rw [hregistered.declarations]
    exact List.mem_map_of_mem (f := fun d : Declaration => (d.name, d)) hdecl
  obtain ⟨type, htype, settled, hsettled, hresolves⟩ := exists_of_forall₂_right hbuilds.types.flip hentry
  have hname : type.name = decl.name := hresolves.name.trans (Hierarchy.name_of_get?_freeze hsettled)
  exact ⟨type, hname ▸ type?_of_mem (hsound.names ▸ hsound.nodup) htype, hresolves.isAbstract⟩

end Catalog

end ReportFilters
