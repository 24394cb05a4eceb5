import ReportFilters.Proofs.Catalog.Display
import ReportFilters.Proofs.Catalog.Refusal
import ReportFilters.Proofs.Text.Blank

/-! Declarations that differ in the blanks around their tokens. They are refused alike, and their types
agree in everything but the operators that they offer. Those are trimmed as well, but whether a token
replaces what is inherited is decided by the token as it was written, blanks and all. -/

namespace ReportFilters

inductive OperatorUse.Padded : OperatorUse → OperatorUse → Prop
  | group (g : OperatorGroup) : Padded (.group g) (.group g)
  | token {t t' : String} (h : Text.SameButBlanks t t') : Padded (.token t) (.token t')

structure Declaration.Padded (decl decl' : Declaration) : Prop where
  name : decl.name = decl'.name
  isAbstract : decl.isAbstract = decl'.isAbstract
  parent : decl.parent = decl'.parent
  column : decl.column = decl'.column
  joins : decl.joins = decl'.joins
  uses : List.Forall₂ OperatorUse.Padded decl.uses decl'.uses
  default : Option.Rel Text.SameButBlanks decl.defaultOperator decl'.defaultOperator
  heavy : decl.isHeavy = decl'.isHeavy

def Declaration.CutAlike (decl decl' : Declaration) : Prop :=
  decl.uses.any OperatorUse.replacesInherited = decl'.uses.any OperatorUse.replacesInherited

instance (decl decl' : Declaration) : Decidable (decl.CutAlike decl') :=
  inferInstanceAs (Decidable (_ = _))

namespace Declaration.Padded

theorem base : Padded CatalogBuilder.baseDeclaration CatalogBuilder.baseDeclaration :=
  ⟨rfl, rfl, rfl, rfl, rfl, .cons (.group _) .nil, .none, rfl⟩

theorem concrete (name column : String) (join : Option Join) {tokens tokens' : List String}
    {default default' : Option String} (htokens : List.Forall₂ Text.SameButBlanks tokens tokens')
    (hdefault : Option.Rel Text.SameButBlanks default default') :
    Padded (.concrete name column join tokens default) (.concrete name column join tokens' default') := by
  refine ⟨rfl, rfl, rfl, rfl, rfl, ?_, hdefault, rfl⟩
  rw [Declaration.concrete, Declaration.concrete, List.forall₂_map_left_iff, List.forall₂_map_right_iff]
  exact htokens.imp fun _ _ => .token

variable {decl decl' : Declaration} (h : Padded decl decl')
include h

theorem tokens : (decl.uses.flatMap OperatorUse.tokens).map Text.trim
    = (decl'.uses.flatMap OperatorUse.tokens).map Text.trim := by
  rw [List.map_flatMap, List.map_flatMap, List.flatMap_def, List.flatMap_def]
  congr 1
  refine map_eq_of_forall₂ h.uses fun use use' huse => ?_
  cases huse with
  | group => rfl
  | token hsame => exact congrArg (fun t => [t]) (Text.sameButBlanks_iff.mp hsame)

theorem defaultToken : decl.defaultOperator.map Text.trim = decl'.defaultOperator.map Text.trim := by
  have hrelated := h.default
  generalize decl.defaultOperator = default, decl'.defaultOperator = default' at hrelated ⊢
  cases hrelated with
  | none => rfl
  | some hsame => exact congrArg some (Text.sameButBlanks_iff.mp hsame)

end Declaration.Padded

namespace Ancestry
open CatalogBuilder (baseDeclaration)

theorem exists_related {R : Declaration → Declaration → Prop} {decls decls' : List Declaration}
    (h : List.Forall₂ R decls decls') (hbase : R baseDeclaration baseDeclaration)
    (hpadded : ∀ decl decl', R decl decl' → decl.Padded decl') {path : List Declaration}
    (hpath : Ancestry decls path) : ∃ path', Ancestry decls' path' ∧ List.Forall₂ R path path' := by
  induction hpath with
  | base => exact ⟨_, .base, .cons hbase .nil⟩
  | child hdecl hparent _ ih =>
    obtain ⟨_, habove, hrelated⟩ := ih
    obtain ⟨decl', hdecl', hR⟩ := exists_of_forall₂_right h.flip hdecl
    cases hrelated with
    | cons hfirst hrest =>
      refine ⟨_, .child hdecl' ?_ habove, .cons hR (.cons hfirst hrest)⟩
      rw [← (hpadded _ _ hR).parent, hparent, (hpadded _ _ hfirst).name]

section
variable {R : Declaration → Declaration → Prop} {decls decls' : List Declaration}
  (hpadded : ∀ decl decl', R decl decl' → decl.Padded decl')
include hpadded

theorem names_of_related (h : List.Forall₂ R decls decls') :
    decls.map Declaration.name = decls'.map Declaration.name :=
  map_eq_of_forall₂ h fun _ _ hR => (hpadded _ _ hR).name

theorem related (h : List.Forall₂ R decls decls') (hbase : R baseDeclaration baseDeclaration)
    (hnodup : (baseFilter :: decls.map Declaration.name).Nodup) {path path' : List Declaration}
    (hpath : Ancestry decls path) (hpath' : Ancestry decls' path') {name : String}
    (hname : StartsAt path name) (hname' : StartsAt path' name) : List.Forall₂ R path path' := by
  obtain ⟨other, hother, hrelated⟩ := hpath.exists_related h hbase hpadded
  have hstart : StartsAt other name := by
    cases hrelated with
    | nil => cases hname
    | cons hR _ => exact (congrArg some (hpadded _ _ hR).name.symm).trans hname
  rw [names_of_related hpadded h] at hnodup
  rwa [hpath'.unique hnodup hother hname' hstart]

end

section
variable {path path' : List Declaration} (h : List.Forall₂ Declaration.Padded path path')
include h

theorem column_of_padded : column path = column path' := by
  have hmap : ∀ path, column path
      = ((path.map Declaration.column).find? fun c => !c.isEmpty).getD "" := by
    intro path
    rw [List.find?_map]
    rfl
  rw [hmap, hmap, map_eq_of_forall₂ h fun _ _ hpadded => hpadded.column]

theorem joins_of_padded : joins path = joins path' := by
  rw [joins, joins, List.flatMap_def, List.flatMap_def, List.map_reverse, List.map_reverse,
    map_eq_of_forall₂ h fun _ _ hpadded => hpadded.joins]

theorem defaultToken_of_padded : defaultToken path = defaultToken path' := by
  have hmap : ∀ path, defaultToken path
      = (path.map fun decl => decl.defaultOperator.map Text.trim).findSome? id := by
    intro path
    rw [defaultToken, List.map_findSome?, List.findSome?_map]
    rfl
  rw [hmap, hmap, map_eq_of_forall₂ h fun _ _ hpadded => hpadded.defaultToken]

theorem isHeavy_of_padded : isHeavy path = isHeavy path' := by
  have hmap : ∀ path, isHeavy path = ((path.map Declaration.isHeavy).findSome? id).getD false := by
    intro path
    rw [List.findSome?_map]
    rfl
  rw [hmap, hmap, map_eq_of_forall₂ h fun _ _ hpadded => hpadded.heavy]

end

theorem tokens_of_cutAlike {path path' : List Declaration}
    (h : List.Forall₂ (fun decl decl' => decl.Padded decl' ∧ decl.CutAlike decl') path path') :
    tokens path = tokens path' := by
  have huntil : List.Forall₂ Declaration.Padded (untilReplaced path) (untilReplaced path') := by
    induction h with
    | nil => exact .nil
    | cons hstep _ ih =>
      obtain ⟨hpadded, hcut⟩ := hstep
      rw [untilReplaced, untilReplaced, ← hcut]
      split
      · exact .cons hpadded .nil
      · exact .cons hpadded ih
  rw [tokens, tokens, List.flatMap_def, List.flatMap_def, List.map_reverse, List.map_reverse,
    map_eq_of_forall₂ huntil fun _ _ hpadded => hpadded.tokens]

end Ancestry

namespace FilterType

def withoutOperators (type : FilterType) : FilterType := { type with operators := [] }

structure SameButTokens (frozen frozen' : FrozenType) : Prop where
  name : frozen.name = frozen'.name
  parent : frozen.parent = frozen'.parent
  column : ((frozen.scalar Attribute.column).bind AttributeValue.text?).getD ""
    = ((frozen'.scalar Attribute.column).bind AttributeValue.text?).getD ""
  joins : (frozen.list Attribute.tableJoins).filterMap AttributeValue.join?
    = (frozen'.list Attribute.tableJoins).filterMap AttributeValue.join?
  default : defaultTokenOf frozen = defaultTokenOf frozen'
  heavy : frozen.flag Attribute.heavy = frozen'.flag Attribute.heavy
  display : frozen.flag Attribute.display = frozen'.flag Attribute.display

section
variable {registry : Registry} {decl decl' : Declaration} {frozen frozen' : FrozenType}
  (h : SameButTokens frozen frozen') (habstract : decl.isAbstract = decl'.isAbstract)
include h habstract

theorem resolve_congr (htokens : tokensOf frozen = tokensOf frozen') :
    resolve registry decl frozen = resolve registry decl' frozen' := by
  have hdefault := h.default
  unfold tokensOf at htokens
  unfold defaultTokenOf at hdefault
  unfold resolve
  rw [htokens, hdefault, h.name, h.parent, h.column, h.joins, h.heavy, h.display, habstract]

theorem withoutOperators_congr {type type' : FilterType} (htype : resolve registry decl frozen = .ok type)
    (htype' : resolve registry decl' frozen' = .ok type') :
    type.withoutOperators = type'.withoutOperators := by
  have hresolves := resolves_of_resolve htype
  have hresolves' := resolves_of_resolve htype'
  have hdefault : type.defaultOperator.map some = type'.defaultOperator.map some := by
    rw [hresolves.default, hresolves'.default, h.default]
  have hsome : Function.Injective (some : Operator → Option Operator) := Option.some_injective _
  rw [withoutOperators, withoutOperators, hresolves.name, hresolves'.name, h.name, hresolves.parent,
    hresolves'.parent, h.parent, hresolves.column, hresolves'.column, h.column, hresolves.joins,
    hresolves'.joins, h.joins, Option.map_injective hsome hdefault, hresolves.heavy, hresolves'.heavy,
    h.heavy, hresolves.display, hresolves'.display, h.display, hresolves.isAbstract,
    hresolves'.isAbstract, habstract]

end

end FilterType

namespace CatalogBuilder
open FilterType

section
variable {decls decls' : List Declaration}

theorem registerAll_eq_error_iff_of_padded {before before' : List Declaration}
    {builder builder' : CatalogBuilder} (hbuilder : Registered before builder)
    (hbuilder' : Registered before' builder')
    (hnames : before.map Declaration.name = before'.map Declaration.name)
    (h : List.Forall₂ Declaration.Padded decls decls') (e : Error) :
    builder.registerAll decls = .error e ↔ builder'.registerAll decls' = .error e := by
  induction h generalizing before before' builder builder' with
  | nil => exact ⟨fun h => (nomatch h), fun h => (nomatch h)⟩
  | @cons decl decl' _ _ hpadded _ ih =>
    have hstep : ∀ e, builder.register decl = .error e ↔ builder'.register decl' = .error e := by
      intro e
      rw [hbuilder.register_eq_error_iff, hbuilder'.register_eq_error_iff, hnames, hpadded.name,
        hpadded.parent]
    rw [registerAll, registerAll, List.foldlM_cons, List.foldlM_cons]
    cases hnext : builder.register decl with
    | error e' =>
      rw [(hstep e').mp hnext]
      exact Iff.rfl
    | ok next =>
      cases hnext' : builder'.register decl' with
      | error e' =>
        rw [(hstep e').mpr hnext'] at hnext
        cases hnext
      | ok next' =>
        refine ih (hbuilder.register hnext) (hbuilder'.register hnext') ?_
        rw [List.map_append, List.map_append, hnames, List.map_singleton, List.map_singleton,
          hpadded.name]

def typesFrom (decls : List Declaration) (ops : List CustomOperator) (token : String) :
    Except Error (List FilterType) := do
  let builder ← empty.registerAll decls
  let catalog ← (builder.withDefaultOperator token).build (Registry.empty.registerAll ops)
  pure catalog.types

def SameTokens (decls decls' : List Declaration) : Prop :=
  ∀ path path' name, Ancestry decls path → Ancestry decls' path' → StartsAt path name →
    StartsAt path' name → Ancestry.tokens path = Ancestry.tokens path'

theorem typesFrom_of_registerAll {builder : CatalogBuilder} (h : empty.registerAll decls = .ok builder)
    (ops : List CustomOperator) (token : String) : typesFrom decls ops token =
      ((Registry.empty.registerAll ops).lookup token >>= fun _ => (baseDeclaration :: decls).mapM
        fun decl => resolveType (Registry.empty.registerAll ops) builder.hierarchy.freeze
          (decl.name, decl)) := by
  have hdeclared : builder.declarations = (baseDeclaration :: decls).map fun decl => (decl.name, decl) :=
    (registered_of_registerAll h).declarations
  rw [typesFrom, h, ok_bind, build, withDefaultOperator, hdeclared, List.mapM_map]
  simp only [bind_assoc, pure_bind, bind_pure]
  rfl

theorem exists_of_typesFrom {ops : List CustomOperator} {token : String} {types : List FilterType}
    (h : typesFrom decls ops token = .ok types) : ∃ builder, empty.registerAll decls = .ok builder ∧
      List.Forall₂ (fun decl type => resolveType (Registry.empty.registerAll ops)
        builder.hierarchy.freeze (decl.name, decl) = .ok type) (baseDeclaration :: decls) types := by
  obtain ⟨builder, hbuilder, _⟩ := exists_of_bind_eq_ok h
  rw [typesFrom_of_registerAll hbuilder] at h
  obtain ⟨_, _, htypes⟩ := exists_of_bind_eq_ok h
  exact ⟨builder, hbuilder, forall₂_of_mapM htypes⟩

theorem exists_catalog_of_typesFrom {ops : List CustomOperator} {token : String}
    {types : List FilterType} (h : typesFrom decls ops token = .ok types) :
    ∃ catalog : Catalog, catalog.BuiltFrom decls ops ∧ catalog.types = types := by
  obtain ⟨builder, hbuilder, h⟩ := exists_of_bind_eq_ok h
  obtain ⟨catalog, hcatalog, h⟩ := exists_of_bind_eq_ok h
  cases h
  exact ⟨catalog, ⟨builder, token, hbuilder, hcatalog⟩, rfl⟩

end

section
variable {decls decls' : List Declaration} {builder builder' : CatalogBuilder}
  (h : List.Forall₂ Declaration.Padded decls decls') (hbuilder : empty.registerAll decls = .ok builder)
  (hbuilder' : empty.registerAll decls' = .ok builder')
include h hbuilder hbuilder'

theorem exists_frozen_of_padded {decl decl' : Declaration} (hdecl : decl ∈ baseDeclaration :: decls)
    (hdecl' : decl' ∈ baseDeclaration :: decls') (hpadded : decl.Padded decl') :
    ∃ above above' frozen frozen', Ancestry decls (decl :: above) ∧ Ancestry decls' (decl' :: above') ∧
      builder.hierarchy.freeze.get? decl.name = some frozen ∧
      builder'.hierarchy.freeze.get? decl'.name = some frozen' ∧ SameButTokens frozen frozen' ∧
      tokensOf frozen = Ancestry.tokens (decl :: above) ∧
      tokensOf frozen' = Ancestry.tokens (decl' :: above') := by
  obtain ⟨above, frozen, hpath, hfrozen, hsettled, hparent, hdisplay⟩ :=
    exists_frozen_of_registerAll hbuilder hdecl
  obtain ⟨above', frozen', hpath', hfrozen', hsettled', hparent', hdisplay'⟩ :=
    exists_frozen_of_registerAll hbuilder' hdecl'
  have hrelated : List.Forall₂ Declaration.Padded (decl :: above) (decl' :: above') :=
    Ancestry.related (fun _ _ hR => hR) h .base (registered_of_registerAll hbuilder).nodup hpath hpath'
      rfl (congrArg some hpadded.name.symm)
  refine ⟨above, above', frozen, frozen', hpath, hpath', hfrozen, hfrozen', ?_,
    tokens_of_settled hsettled, tokens_of_settled hsettled'⟩
  constructor
  · rw [Hierarchy.name_of_get?_freeze hfrozen, Hierarchy.name_of_get?_freeze hfrozen', hpadded.name]
  · rw [hparent, hparent', Declaration.parent?, Declaration.parent?, hpadded.name, hpadded.parent]
  · rw [column_of_settled hsettled, column_of_settled hsettled', Ancestry.column_of_padded hrelated]
  · rw [joins_of_settled hsettled, joins_of_settled hsettled', Ancestry.joins_of_padded hrelated]
  · rw [defaultToken_of_settled hsettled, defaultToken_of_settled hsettled',
      Ancestry.defaultToken_of_padded hrelated]
  · rw [heavy_of_settled hsettled, heavy_of_settled hsettled', Ancestry.isHeavy_of_padded hrelated]
  · rw [hdisplay, hdisplay', hpadded.isAbstract]

theorem mapM_resolveType_of_padded (htokens : SameTokens decls decls') (registry : Registry) :
    ((baseDeclaration :: decls).mapM fun decl =>
        resolveType registry builder.hierarchy.freeze (decl.name, decl))
      = (baseDeclaration :: decls').mapM fun decl' =>
        resolveType registry builder'.hierarchy.freeze (decl'.name, decl') := by
  refine mapM_congr_of_forall₂ (forall₂_imp_of_mem (.cons .base h) ?_)
  intro decl hdecl decl' hdecl' hpadded
  obtain ⟨above, above', frozen, frozen', hpath, hpath', hfrozen, hfrozen', hsame, hoffered, hoffered'⟩ :=
    exists_frozen_of_padded h hbuilder hbuilder' hdecl hdecl' hpadded
  rw [resolveType, resolveType, hfrozen, hfrozen']
  refine resolve_congr hsame hpadded.isAbstract ?_
  rw [hoffered, hoffered']
  exact htokens _ _ _ hpath hpath' rfl (congrArg some hpadded.name.symm)

end

section
variable {decls decls' : List Declaration} (h : List.Forall₂ Declaration.Padded decls decls')
include h

theorem typesFrom_eq_of_sameTokens
    (htokens : (baseFilter :: decls.map Declaration.name).Nodup → SameTokens decls decls')
    (ops : List CustomOperator) (token : String) :
    typesFrom decls ops token = typesFrom decls' ops token := by
  have hfails := registerAll_eq_error_iff_of_padded registered_empty registered_empty rfl h
  cases hbuilder : empty.registerAll decls with
  | error e =>
    rw [typesFrom, typesFrom, hbuilder, (hfails e).mp hbuilder]
  | ok builder =>
    cases hbuilder' : empty.registerAll decls' with
    | error e =>
      rw [(hfails e).mpr hbuilder'] at hbuilder
      cases hbuilder
    | ok builder' =>
      rw [typesFrom_of_registerAll hbuilder, typesFrom_of_registerAll hbuilder',
        mapM_resolveType_of_padded h hbuilder hbuilder'
          (htokens (registered_of_registerAll hbuilder).nodup)]

theorem sameTokens_of_cutAlike (hnodup : (baseFilter :: decls.map Declaration.name).Nodup)
    (hcut : List.Forall₂ Declaration.CutAlike decls decls') : SameTokens decls decls' := by
  have hboth : List.Forall₂ (fun decl decl' => decl.Padded decl' ∧ decl.CutAlike decl') decls decls' :=
    h.mp (fun _ _ hpadded hcut => ⟨hpadded, hcut⟩) hcut
  intro path path' name hpath hpath' hname hname'
  exact Ancestry.tokens_of_cutAlike
    (Ancestry.related (fun _ _ hR => hR.1) hboth ⟨.base, rfl⟩ hnodup hpath hpath' hname hname')

theorem withoutOperators_of_typesFrom {ops : List CustomOperator} {token : String}
    {types types' : List FilterType} (htypes : typesFrom decls ops token = .ok types)
    (htypes' : typesFrom decls' ops token = .ok types') :
    types.map withoutOperators = types'.map withoutOperators := by
  obtain ⟨builder, hbuilder, hresolved⟩ := exists_of_typesFrom htypes
  obtain ⟨builder', hbuilder', hresolved'⟩ := exists_of_typesFrom htypes'
  have hmem : List.Forall₂ (fun decl decl' => decl.Padded decl' ∧ decl ∈ baseDeclaration :: decls ∧
      decl' ∈ baseDeclaration :: decls') (baseDeclaration :: decls) (baseDeclaration :: decls') :=
    forall₂_imp_of_mem (.cons .base h) fun _ hdecl _ hdecl' hpadded => ⟨hpadded, hdecl, hdecl'⟩
  refine map_eq_of_forall₂_forall₂ hmem hresolved hresolved' ?_
  rintro decl decl' type type' ⟨hpadded, hdecl, hdecl'⟩ htype htype'
  obtain ⟨_, _, frozen, frozen', _, _, hfrozen, hfrozen', hsame, _⟩ :=
    exists_frozen_of_padded h hbuilder hbuilder' hdecl hdecl' hpadded
  rw [resolveType, hfrozen] at htype
  rw [resolveType, hfrozen'] at htype'
  exact withoutOperators_congr hsame hpadded.isAbstract htype htype'

end

theorem sameTokens_of_typesFrom {decls decls' : List Declaration} {ops : List CustomOperator}
    {token : String} {types : List FilterType} (h : typesFrom decls ops token = .ok types)
    (h' : typesFrom decls' ops token = .ok types) : SameTokens decls decls' := by
  intro path path' name hpath hpath' hname hname'
  obtain ⟨catalog, hcatalog, rfl⟩ := exists_catalog_of_typesFrom h
  obtain ⟨catalog', hcatalog', hsame⟩ := exists_catalog_of_typesFrom h'
  obtain ⟨type, htype, hreads⟩ := hcatalog.sound.exists_type hpath hname
  obtain ⟨type', htype', hreads'⟩ := hcatalog'.sound.exists_type hpath' hname'
  rw [Catalog.type?, hsame] at htype'
  rw [← hreads.tokens, ← hreads'.tokens, Option.some.inj (htype.symm.trans htype')]

/-- Blanks around tokens have no part in what is refused. As long as the same operators are offered
along the paths of every name, they have no part in the types either, and so whenever they make no
difference to what replaces the operators of ancestors. Where catalogs come to be on both sides,
nothing but the operators offered can differ. -/
theorem typesFrom_of_padded {decls decls' : List Declaration}
    (h : List.Forall₂ Declaration.Padded decls decls') :
    (∀ e, empty.registerAll decls = .error e ↔ empty.registerAll decls' = .error e) ∧
    (SameTokens decls decls' ∨ List.Forall₂ Declaration.CutAlike decls decls' → ∀ ops token,
      typesFrom decls ops token = typesFrom decls' ops token) ∧
    ∀ ops token types types', typesFrom decls ops token = .ok types →
      typesFrom decls' ops token = .ok types' →
        types.map withoutOperators = types'.map withoutOperators ∧
        (types = types' ↔ SameTokens decls decls') := by
  refine ⟨registerAll_eq_error_iff_of_padded registered_empty registered_empty rfl h, ?_, ?_⟩
  · rintro (htokens | hcut)
    · exact typesFrom_eq_of_sameTokens h fun _ => htokens
    · exact typesFrom_eq_of_sameTokens h fun hnodup => sameTokens_of_cutAlike h hnodup hcut
  · intro ops token types types' htypes htypes'
    refine ⟨withoutOperators_of_typesFrom h htypes htypes', ?_, ?_⟩
    · rintro rfl
      exact sameTokens_of_typesFrom htypes htypes'
    · intro htokens
      have hsame := typesFrom_eq_of_sameTokens h (fun _ => htokens) ops token
      exact Except.ok.inj (htypes.symm.trans (hsame.trans htypes'))

def offeredTokens (decls : List Declaration) : Option (List (String × List String)) :=
  (typesFrom decls [] "=").toOption.map fun types =>
    types.map fun type => (type.name, type.operators.map Operator.token)

theorem typesFrom_of_padded_day :
    let day (token : String) : Declaration :=
      { name := "day", uses := [.token token, .token "=d"], defaultOperator := some token }
    List.Forall₂ Declaration.Padded [day "w"] [day " w\t"] ∧
      offeredTokens [day "w"] = some [("filter", ["=", "!"]), ("day", ["=", "!", "w", "=d"])] ∧
      typesFrom [day "w"] [] "=" = typesFrom [day " w\t"] [] "=" := by
  intro day
  have hsame : Text.SameButBlanks "w" " w\t" := Text.sameButBlanks_iff.mpr (by decide +kernel)
  have huses : List.Forall₂ OperatorUse.Padded (day "w").uses (day " w\t").uses :=
    .cons (.token hsame) (.cons (.token (Text.sameButBlanks_iff.mpr rfl)) .nil)
  have hpadded : List.Forall₂ Declaration.Padded [day "w"] [day " w\t"] :=
    .cons ⟨rfl, rfl, rfl, rfl, rfl, huses, .some hsame, rfl⟩ .nil
  refine ⟨hpadded, by decide +kernel, ?_⟩
  exact (typesFrom_of_padded hpadded).2.1 (.inr (.cons (by decide +kernel) .nil)) [] "="

theorem not_typesFrom_of_padded_flag :
    let flag (token : String) := Declaration.concrete "flag" "entries.flag" none [token] none
    List.Forall₂ Declaration.Padded [flag "y"] [flag " y"] ∧
      offeredTokens [flag "y"] = some [("filter", ["=", "!"]), ("flag", ["y"])] ∧
      offeredTokens [flag " y"] = some [("filter", ["=", "!"]), ("flag", ["=", "!", "y"])] ∧
      typesFrom [flag "y"] [] "=" ≠ typesFrom [flag " y"] [] "=" := by
  intro flag
  have hsame : Text.SameButBlanks "y" " y" := Text.sameButBlanks_iff.mpr (by decide +kernel)
  have hwritten : offeredTokens [flag "y"] = some [("filter", ["=", "!"]), ("flag", ["y"])] := by
    decide +kernel
  have hpadded : offeredTokens [flag " y"] = some [("filter", ["=", "!"]), ("flag", ["=", "!", "y"])] := by
    decide +kernel
  refine ⟨.cons (.concrete _ _ _ (.cons hsame .nil) .none) .nil, hwritten, hpadded, ?_⟩
  intro heq
  rw [offeredTokens, heq, ← offeredTokens, hpadded] at hwritten
  exact absurd hwritten (by decide)

end CatalogBuilder
end ReportFilters
