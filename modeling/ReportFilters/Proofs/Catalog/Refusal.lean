import ReportFilters.Proofs.Catalog.Built

/-! What a catalog is refused for. A declaration is refused for its own name or for that of its parent and
for nothing else; a catalog for a fallback or for a token that the registry does not know, or for a default
that a type does not offer. A type always offers something, sees all attributes and is found, so that the
other errors of these steps do not arise. -/

namespace ReportFilters

namespace FilterType

theorem lookupFor_eq_error_iff {registry : Registry} {name token : String} {e : Error} :
    lookupFor registry name token = .error e ↔
      registry.lookup? token = none ∧ e = (Error.unknownOperator token).withFilter name := by
  rw [lookupFor, Registry.lookup]
  cases registry.lookup? token with
  | none => exact error_eq_error_iff.trans (by simp)
  | some op => simp [Except.mapError]

theorem exists_lookupFor_eq_ok_iff {registry : Registry} {name token : String} :
    (∃ op, lookupFor registry name token = .ok op) ↔ registry.lookup? token ≠ none := by
  simp only [lookupFor_eq_ok_iff, Option.ne_none_iff_exists']

theorem checkDefault_eq_error_iff {name : String} {operators : List Operator} {default : Operator}
    {e : Error} : checkDefault name operators default = .error e ↔
      default.token ∉ operators.map Operator.token ∧
        e = (Error.operatorNotSupported name default.token).withHelp
          "A type's default operator must be one of its available operators" := by
  have hany : (operators.any fun op => op.token = default.token) = true ↔
      default.token ∈ operators.map Operator.token := by simp
  rw [checkDefault, ← hany]
  split
  next hoffered => simp [hoffered]
  next hoffered => rw [error_eq_error_iff, and_iff_right hoffered]

/-- What is wrong with a type that offers these operators and has this default: the first of the
operators that is unknown, and only if there is none, the default. -/
inductive Offence (registry : Registry) (name : String) (tokens : List String)
    (default : Option String) : Error → Prop
  | unknownToken {before : List String} {token : String} {after : List String}
    (htokens : tokens = before ++ token :: after)
    (hbefore : ∀ t ∈ before, registry.lookup? t ≠ none) (htoken : registry.lookup? token = none) :
    Offence registry name tokens default ((Error.unknownOperator token).withFilter name)
  | unknownDefault {token : String} (hknown : ∀ t ∈ tokens, registry.lookup? t ≠ none)
    (hdefault : default = some token) (htoken : registry.lookup? token = none) :
    Offence registry name tokens default ((Error.unknownOperator token).withFilter name)
  | notOffered {token : String} (hknown : ∀ t ∈ tokens, registry.lookup? t ≠ none)
    (hdefault : default = some token) (htoken : registry.lookup? token ≠ none)
    (hoffered : token ∉ tokens) :
    Offence registry name tokens default ((Error.operatorNotSupported name token).withHelp
      "A type's default operator must be one of its available operators")

theorem Offence.code {registry : Registry} {name : String} {tokens : List String}
    {default : Option String} {e : Error} (h : Offence registry name tokens default e) :
    e.filter = some name ∧ (e.code = .unknownOperator ∨ e.code = .operatorNotSupported) := by
  cases h with
  | unknownToken => exact ⟨rfl, .inl rfl⟩
  | unknownDefault => exact ⟨rfl, .inl rfl⟩
  | notOffered => exact ⟨rfl, .inr rfl⟩

theorem not_offence {registry : Registry} {name : String} {tokens : List String}
    {default : Option String} (hknown : ∀ t ∈ tokens, registry.lookup? t ≠ none)
    (hdefault : ∀ t ∈ default, t ∈ tokens) (e : Error) :
    ¬Offence registry name tokens default e := by
  intro h
  cases h with
  | unknownToken htokens _ htoken => exact hknown _ (by simp [htokens]) htoken
  | unknownDefault _ hsome htoken => exact hknown _ (hdefault _ hsome) htoken
  | notOffered _ hsome _ hoffered => exact hoffered (hdefault _ hsome)

section
variable {registry : Registry} {decl : Declaration} {frozen : FrozenType} {e : Error}

theorem resolve_eq_error_iff_of_steps (hsome : tokensOf frozen ≠ []) :
    resolve registry decl frozen = .error e ↔
      (tokensOf frozen).mapM (lookupFor registry frozen.name) = .error e ∨
      ∃ ops, (tokensOf frozen).mapM (lookupFor registry frozen.name) = .ok ops ∧
        ∃ token ∈ defaultTokenOf frozen,
          lookupFor registry frozen.name token >>= checkDefault frozen.name ops = .error e := by
  rw [resolve]
  refine bind_eq_error_iff.trans (or_congr_right (exists_congr fun ops => and_congr_right fun hops => ?_))
  have hempty : ops.isEmpty = false := by
    cases ops with
    | nil => exact absurd (List.forall₂_nil_right_iff.mp (forall₂_of_mapM hops)) hsome
    | cons op rest => rfl
  rw [hempty, Bool.and_false, ← defaultTokenOf]
  cases defaultTokenOf frozen with
  | none =>
    constructor
    · intro h
      cases h
    · rintro ⟨token, htoken, _⟩
      cases htoken
  | some token =>
    rw [Option.mapM_some]
    cases hop : lookupFor registry frozen.name token with
    | error e' => simp [hop]
    | ok op =>
      rw [map_ok, ok_bind]
      cases hcheck : checkDefault frozen.name ops op <;> simp [pure, Except.pure, hop, hcheck]

theorem resolve_eq_error_iff (hkeyed : registry.IsKeyed) (hsome : tokensOf frozen ≠ []) :
    resolve registry decl frozen = .error e ↔
      Offence registry frozen.name (tokensOf frozen) (defaultTokenOf frozen) e := by
  have hknown : (∃ ops, (tokensOf frozen).mapM (lookupFor registry frozen.name) = .ok ops) ↔
      ∀ t ∈ tokensOf frozen, registry.lookup? t ≠ none :=
    exists_mapM_eq_ok_iff.trans (forall₂_congr fun t _ => exists_lookupFor_eq_ok_iff)
  rw [resolve_eq_error_iff_of_steps hsome]
  constructor
  · rintro (hunknown | ⟨ops, hops, token, hdefault, hrefused⟩)
    · obtain ⟨before, token, after, htokens, hbefore, htoken⟩ := mapM_eq_error_iff.mp hunknown
      obtain ⟨hnone, rfl⟩ := lookupFor_eq_error_iff.mp htoken
      exact .unknownToken htokens (fun t ht => exists_lookupFor_eq_ok_iff.mp (hbefore t ht)) hnone
    · rcases bind_eq_error_iff.mp hrefused with hunknown | ⟨op, hop, hcheck⟩
      · obtain ⟨hnone, rfl⟩ := lookupFor_eq_error_iff.mp hunknown
        exact .unknownDefault (hknown.mp ⟨ops, hops⟩) hdefault hnone
      · obtain ⟨hoffered, rfl⟩ := checkDefault_eq_error_iff.mp hcheck
        have hlookup := lookupFor_eq_ok_iff.mp hop
        rw [Registry.token_of_lookup? hkeyed hlookup,
          map_token_of_lookup? hkeyed (operators_of_mapM hops)] at *
        exact .notOffered (hknown.mp ⟨ops, hops⟩) hdefault (hlookup ▸ Option.some_ne_none op) hoffered
  · intro h
    cases h with
    | unknownToken htokens hbefore htoken =>
      exact .inl (mapM_eq_error_iff.mpr ⟨_, _, _, htokens,
        fun t ht => exists_lookupFor_eq_ok_iff.mpr (hbefore t ht),
        lookupFor_eq_error_iff.mpr ⟨htoken, rfl⟩⟩)
    | unknownDefault hall hdefault htoken =>
      obtain ⟨ops, hops⟩ := hknown.mpr hall
      exact .inr ⟨ops, hops, _, hdefault,
        bind_eq_error_iff.mpr (.inl (lookupFor_eq_error_iff.mpr ⟨htoken, rfl⟩))⟩
    | @notOffered token hall hdefault htoken hoffered =>
      obtain ⟨ops, hops⟩ := hknown.mpr hall
      obtain ⟨op, hlookup⟩ := Option.ne_none_iff_exists'.mp htoken
      have hname := Registry.token_of_lookup? hkeyed hlookup
      refine .inr ⟨ops, hops, token, hdefault, bind_eq_error_iff.mpr
        (.inr ⟨op, lookupFor_eq_ok_iff.mpr hlookup, checkDefault_eq_error_iff.mpr ?_⟩)⟩
      rw [map_token_of_lookup? hkeyed (operators_of_mapM hops), hname]
      exact ⟨hoffered, rfl⟩

end
end FilterType

theorem OperatorUse.exists_mem_tokens {use : OperatorUse} (h : use.replacesInherited) :
    ∃ token, token ∈ use.tokens := by
  cases use with
  | token t => exact ⟨t, List.mem_singleton_self t⟩
  | group g =>
    rw [of_decide_eq_true h]
    exact ⟨_, List.mem_cons_self ..⟩

theorem Ancestry.tokens_ne_nil {decls path : List Declaration} (h : Ancestry decls path) :
    Ancestry.tokens path ≠ [] := by
  suffices hsome : ∃ decl ∈ untilReplaced path, ∃ token, token ∈ decl.uses.flatMap OperatorUse.tokens by
    obtain ⟨decl, hdecl, token, htoken⟩ := hsome
    refine List.ne_nil_of_mem (a := Text.trim token) ?_
    rw [tokens, List.mem_eraseDups, List.mem_flatMap]
    exact ⟨decl, List.mem_reverse.mpr hdecl, List.mem_map_of_mem htoken⟩
  induction h with
  | base => exact ⟨_, List.mem_singleton_self _, _, List.mem_cons_self ..⟩
  | @child decl parent above _ _ _ ih =>
    rw [untilReplaced]
    split
    next hreplaced =>
      obtain ⟨use, huse, hreplaces⟩ := List.any_eq_true.mp hreplaced
      obtain ⟨token, htoken⟩ := use.exists_mem_tokens hreplaces
      exact ⟨decl, List.mem_singleton_self _, token, List.mem_flatMap.mpr ⟨use, huse, htoken⟩⟩
    next =>
      obtain ⟨other, hother, hsome⟩ := ih
      exact ⟨other, List.mem_cons_of_mem _ hother, hsome⟩

def Declaration.Offends (decls : List Declaration) (registry : Registry) (decl : Declaration)
    (e : Error) : Prop :=
  ∃ above, Ancestry decls (decl :: above) ∧ FilterType.Offence registry decl.name
    (Ancestry.tokens (decl :: above)) (Ancestry.defaultToken (decl :: above)) e

theorem Ancestry.offends_iff {decls above : List Declaration} {decl : Declaration}
    (hnodup : (baseFilter :: decls.map Declaration.name).Nodup) (hpath : Ancestry decls (decl :: above))
    (registry : Registry) (e : Error) : decl.Offends decls registry e ↔
      FilterType.Offence registry decl.name (Ancestry.tokens (decl :: above))
        (Ancestry.defaultToken (decl :: above)) e := by
  refine ⟨?_, fun hoffence => ⟨above, hpath, hoffence⟩⟩
  rintro ⟨other, hother, hoffence⟩
  cases hother.unique hnodup hpath rfl rfl
  exact hoffence

namespace CatalogBuilder
open FilterType

section
variable {decls : List Declaration} {builder : CatalogBuilder} {registry : Registry} {e : Error}
  (h : Registered decls builder)
include h

theorem Registered.resolveType_eq_error_iff (hkeyed : registry.IsKeyed) {decl : Declaration}
    (hdecl : decl ∈ baseDeclaration :: decls) :
    resolveType registry builder.hierarchy.freeze (decl.name, decl) = .error e ↔
      decl.Offends decls registry e := by
  obtain ⟨above, frozen, hpath, _, hfrozen, hsettled⟩ := h.exists_settled hdecl
  have htokens := tokens_of_settled hsettled
  have hresolve : resolve registry decl frozen = .error e ↔ _ :=
    resolve_eq_error_iff hkeyed (htokens ▸ hpath.tokens_ne_nil)
  rw [htokens, defaultToken_of_settled hsettled, Hierarchy.name_of_get?_freeze hfrozen] at hresolve
  rw [resolveType, hfrozen]
  exact hresolve.trans (hpath.offends_iff h.nodup registry e).symm

theorem Registered.exists_resolveType_eq_ok_iff (hkeyed : registry.IsKeyed) {decl : Declaration}
    (hdecl : decl ∈ baseDeclaration :: decls) :
    (∃ type, resolveType registry builder.hierarchy.freeze (decl.name, decl) = .ok type) ↔
      ∀ e, ¬decl.Offends decls registry e :=
  exists_eq_ok_iff.trans (forall_congr' fun _ => not_congr (h.resolveType_eq_error_iff hkeyed hdecl))

theorem Registered.mapM_resolveType_eq_error_iff (hkeyed : registry.IsKeyed) :
    builder.declarations.mapM (resolveType registry builder.hierarchy.freeze) = .error e ↔
      ∃ before decl after, baseDeclaration :: decls = before ++ decl :: after ∧
        (∀ d ∈ before, ∀ e', ¬d.Offends decls registry e') ∧ decl.Offends decls registry e := by
  have hdeclared : builder.declarations = (baseDeclaration :: decls).map fun decl => (decl.name, decl) :=
    h.declarations
  rw [hdeclared, List.mapM_map, mapM_eq_error_iff]
  refine exists_congr fun before => exists_congr fun decl => exists_congr fun after =>
    and_congr_right fun hsplit => ?_
  have hbefore : ∀ d ∈ before, d ∈ baseDeclaration :: decls := fun d hd =>
    hsplit ▸ List.mem_append_left _ hd
  have hdecl : decl ∈ baseDeclaration :: decls :=
    hsplit ▸ List.mem_append_right _ (List.mem_cons_self ..)
  exact and_congr (forall₂_congr fun d hd => h.exists_resolveType_eq_ok_iff hkeyed (hbefore d hd))
    (h.resolveType_eq_error_iff hkeyed hdecl)

theorem Registered.build_eq_error_iff (hkeyed : registry.IsKeyed) (token : String) :
    (builder.withDefaultOperator token).build registry = .error e ↔
      (registry.lookup? token = none ∧ e = Error.unknownOperator token) ∨
      registry.lookup? token ≠ none ∧ ∃ before decl after,
        baseDeclaration :: decls = before ++ decl :: after ∧
        (∀ d ∈ before, ∀ e', ¬d.Offends decls registry e') ∧ decl.Offends decls registry e := by
  rw [← h.mapM_resolveType_eq_error_iff hkeyed]
  rw [build, withDefaultOperator, Registry.lookup]
  cases registry.lookup? token with
  | none => exact error_eq_error_iff.trans (by simp)
  | some op =>
    rw [ok_bind]
    cases builder.declarations.mapM (resolveType registry builder.hierarchy.freeze) with
    | error e' => simp
    | ok types => simp [pure, Except.pure]

theorem Registered.register_eq_error_iff (decl : Declaration) :
    builder.register decl = .error e ↔
      (decl.name ∈ baseFilter :: decls.map Declaration.name ∧
        e = Error.duplicateFilterType decl.name) ∨
      decl.name ∉ baseFilter :: decls.map Declaration.name ∧
        decl.parent ∉ baseFilter :: decls.map Declaration.name ∧
        e = Error.unknownParentType decl.name decl.parent := by
  rw [register_of_isGrounded h.grounded, ← h.contains_iff, ← h.contains_iff]
  by_cases hname : builder.hierarchy.contains decl.name
  · rw [if_pos hname, error_eq_error_iff]
    simp [hname]
  · by_cases hparent : builder.hierarchy.contains decl.parent
    · simp [hname, hparent]
    · rw [if_neg hname, if_neg hparent, error_eq_error_iff]
      simp [hname, hparent]

end

/-- Whatever was declared so far, a step fails exactly for these reasons and with these errors; that
a type offers nothing, is not found or lacks an attribute is never among them. -/
theorem refusals_of_registerAll {decls : List Declaration} {builder : CatalogBuilder}
    (h : empty.registerAll decls = .ok builder) (ops : List CustomOperator) :
    (∀ decl e, builder.register decl = .error e ↔
      (decl.name ∈ baseFilter :: decls.map Declaration.name ∧
        e = Error.duplicateFilterType decl.name) ∨
      decl.name ∉ baseFilter :: decls.map Declaration.name ∧
        decl.parent ∉ baseFilter :: decls.map Declaration.name ∧
        e = Error.unknownParentType decl.name decl.parent) ∧
    (∀ token e,
      (builder.withDefaultOperator token).build (Registry.empty.registerAll ops) = .error e ↔
        ((Registry.empty.registerAll ops).lookup? token = none ∧ e = Error.unknownOperator token) ∨
        (Registry.empty.registerAll ops).lookup? token ≠ none ∧ ∃ before decl after,
          baseDeclaration :: decls = before ++ decl :: after ∧
          (∀ d ∈ before, ∀ e', ¬d.Offends decls (Registry.empty.registerAll ops) e') ∧
          decl.Offends decls (Registry.empty.registerAll ops) e) ∧
    ∀ e, ((∃ decl, builder.register decl = .error e) ∨ ∃ token,
        (builder.withDefaultOperator token).build (Registry.empty.registerAll ops) = .error e) →
      e.code ≠ .invalidConfiguration ∧ e.code ≠ .unknownFilterType ∧ e.code ≠ .unknownAttribute := by
  have hregistered := registered_of_registerAll h
  have hregister := fun decl e => hregistered.register_eq_error_iff (e := e) decl
  have hbuild := fun token e =>
    hregistered.build_eq_error_iff (e := e) (Registry.isKeyed_registerAll ops) token
  refine ⟨hregister, hbuild, ?_⟩
  have hfour : ∀ code ∈ [ErrorCode.duplicateFilterType, .unknownParentType, .unknownOperator,
      .operatorNotSupported], code ≠ .invalidConfiguration ∧ code ≠ .unknownFilterType ∧
        code ≠ .unknownAttribute := by decide
  rintro e (⟨decl, hfailed⟩ | ⟨token, hfailed⟩)
  · rcases (hregister decl e).mp hfailed with ⟨_, rfl⟩ | ⟨_, _, rfl⟩
    · exact hfour .duplicateFilterType (by decide)
    · exact hfour .unknownParentType (by decide)
  · rcases (hbuild token e).mp hfailed with ⟨_, rfl⟩ | ⟨_, _, _, _, _, _, _, _, hoffence⟩
    · exact hfour .unknownOperator (by decide)
    · rcases hoffence.code.2 with hcode | hcode <;> exact hcode ▸ hfour _ (by decide)

def cutOff : List Declaration := [
  { name := "day", isAbstract := true, uses := [.group .time], defaultOperator := some "=d" },
  { name := "booked", parent := "day", uses := [.token "y"] }]

theorem refusals_cutOff : ∃ builder, empty.registerAll cutOff = .ok builder ∧
    builder.register { name := "day" } = .error (Error.duplicateFilterType "day") ∧
    builder.register { name := "week", parent := "month" }
      = .error (Error.unknownParentType "week" "month") ∧
    (builder.withDefaultOperator "=").build Registry.empty
      = .error ((Error.operatorNotSupported "booked" "=d").withHelp
        "A type's default operator must be one of its available operators") := by
  have hsome : (empty.registerAll cutOff).toOption.isSome := by decide +kernel
  obtain ⟨builder, hbuilder⟩ := Option.isSome_iff_exists.mp hsome
  have h := eq_ok_of_toOption_eq_some hbuilder
  obtain ⟨hregister, hbuild, -⟩ := refusals_of_registerAll h []
  have hday : Ancestry cutOff [cutOff[0], baseDeclaration] := .child (by decide) rfl .base
  have hbooked : Ancestry cutOff [cutOff[1], cutOff[0], baseDeclaration] :=
    .child (by decide) rfl hday
  have hnodup : (baseFilter :: cutOff.map Declaration.name).Nodup := by decide
  refine ⟨builder, h, (hregister _ _).mpr (.inl ⟨by decide, rfl⟩),
    (hregister _ _).mpr (.inr ⟨by decide, by decide, rfl⟩), (hbuild "=" _).mpr (.inr ⟨by decide,
      [baseDeclaration, cutOff[0]], cutOff[1], [], rfl, ?_, ?_⟩)⟩
  · simp only [List.forall_mem_cons, List.not_mem_nil, false_imp_iff, implies_true, and_true]
    constructor
    · intro e hbase
      exact not_offence (by decide +kernel) (by decide +kernel) e
        ((Ancestry.base.offends_iff hnodup _ e).mp hbase)
    · intro e hoffends
      exact not_offence (by decide +kernel) (by decide +kernel) e
        ((hday.offends_iff hnodup _ e).mp hoffends)
  · exact (hbooked.offends_iff hnodup _ _).mpr (.notOffered (by decide +kernel) (by decide +kernel)
      (by decide +kernel) (by decide +kernel))

end CatalogBuilder
end ReportFilters
