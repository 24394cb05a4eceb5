import ReportFilters.Catalog.Basic
import ReportFilters.Proofs.Catalog.Ancestry
import ReportFilters.Proofs.FirstOccurrence
import ReportFilters.Proofs.Operator.Registry

/-! What a type has by its declaration and those of its ancestors, read off the path from the type
up. A hierarchy that has the nodes of a path is frozen to just that, and a type that could be
resolved has it with the operators of the registry. -/

namespace ReportFilters

namespace Ancestry

def column (path : List Declaration) : String :=
  ((path.find? fun decl => !decl.column.isEmpty).map Declaration.column).getD ""

def joins (path : List Declaration) : List Join :=
  (path.reverse.flatMap Declaration.joins).eraseDups

def untilReplaced : List Declaration → List Declaration
  | [] => []
  | decl :: above =>
    if decl.uses.any OperatorUse.replacesInherited then [decl] else decl :: untilReplaced above

def tokens (path : List Declaration) : List String :=
  ((untilReplaced path).reverse.flatMap fun decl =>
    (decl.uses.flatMap OperatorUse.tokens).map Text.trim).eraseDups

def defaultToken (path : List Declaration) : Option String :=
  (path.findSome? Declaration.defaultOperator).map Text.trim

def isHeavy (path : List Declaration) : Bool := (path.findSome? Declaration.isHeavy).getD false

end Ancestry

namespace CatalogBuilder
open Hierarchy SettledType

def said (attr : String) (decl : Declaration) : List AttributeValue :=
  Attribute.stored attr ((decl.entries.get? attr).getD [])

theorem said_column (decl : Declaration) :
    said Attribute.column decl = if decl.column.isEmpty then [] else [.text decl.column] := rfl

theorem said_operators (decl : Declaration) : said Attribute.availableOperators decl
    = ((decl.uses.flatMap OperatorUse.tokens).map Text.trim).map .text := by
  have hstored : said Attribute.availableOperators decl
      = ((decl.uses.flatMap OperatorUse.tokens).map AttributeValue.text).map Attribute.trimToken := rfl
  rw [hstored, List.map_map, List.map_map]
  rfl

theorem said_default (decl : Declaration) :
    said Attribute.defaultOperator decl = (decl.defaultOperator.map Text.trim).toList.map .text := by
  rw [said]
  cases hdefault : decl.defaultOperator <;> simp [Declaration.entries, hdefault] <;> rfl

theorem said_joins (decl : Declaration) :
    said Attribute.tableJoins decl = decl.joins.map .join := rfl

theorem said_heavy (decl : Declaration) :
    said Attribute.heavy decl = decl.isHeavy.toList.map .bool := rfl

theorem Describes.held_eq_said {node : TypeNode} {decl : Declaration} (h : Describes node decl)
    {attr : String} (hattr : attr ∈ decl.entries.names) : Hierarchy.held attr node = said attr decl := by
  obtain ⟨⟨_, values⟩, hentry, rfl⟩ := List.mem_map.mp hattr
  have hnodup : decl.entries.names.Nodup := (nodup_shownEntries decl none).sublist (by
    simp [Dictionary.names, Declaration.shownEntries])
  rw [said, Dictionary.get?_of_mem hnodup hentry]
  exact h.held _ hentry

section
variable {line : List TypeNode} {path : List Declaration} (h : List.Forall₂ Describes line path)
include h

theorem map_held {attr : String} (hattr : ∀ decl : Declaration, attr ∈ decl.entries.names) :
    line.map (held attr) = path.map (said attr) := by
  induction h with
  | nil => rfl
  | cons hnode _ ih => rw [List.map_cons, List.map_cons, ih, hnode.held_eq_said (hattr _)]

theorem untilStop_of_ne {attr : String} (hattr : attr ≠ Attribute.availableOperators) :
    untilStop attr line = line := by
  induction h with
  | nil => rfl
  | cons hnode _ ih =>
    rw [untilStop, if_neg, ih]
    simp [hnode.stops, hattr]

theorem describes_untilStop :
    List.Forall₂ Describes (untilStop Attribute.availableOperators line)
      (Ancestry.untilReplaced path) := by
  induction h with
  | nil => exact .nil
  | @cons node decl line path hnode _ ih =>
    have hstop : node.stops.contains Attribute.availableOperators
        = decl.uses.any OperatorUse.replacesInherited := by
      rw [hnode.stops, Bool.eq_iff_iff]
      simp
    rw [untilStop, Ancestry.untilReplaced, hstop]
    split
    · exact .cons hnode .nil
    · exact .cons hnode ih

end

theorem gathered_eq_map (attr : String) (isList : Bool) (line : List TypeNode) :
    gathered attr isList line =
      if isList then .list ((untilStop attr line).map (held attr)).reverse.flatten
      else .scalar ((untilStop attr line).map (held attr)).flatten.head? := by
  rw [gathered, List.flatMap_def, List.map_reverse, List.head?_flatten, List.findSome?_map]
  rfl

structure Settled (path : List Declaration) (frozen : FrozenType) : Prop where
  column : frozen.scalar Attribute.column = (path.flatMap (said Attribute.column)).head?
  operators : frozen.list Attribute.availableOperators
    = ((Ancestry.untilReplaced path).reverse.flatMap (said Attribute.availableOperators)).eraseDups
  default : frozen.scalar Attribute.defaultOperator
    = (path.flatMap (said Attribute.defaultOperator)).head?
  joins : frozen.list Attribute.tableJoins
    = (path.reverse.flatMap (said Attribute.tableJoins)).eraseDups
  heavy : frozen.scalar Attribute.heavy
    = ((path.flatMap (said Attribute.heavy)).head?).or (some (.bool false))

theorem finishList_eq_eraseDups {rule : AttributeRule} (hunique : rule.isUnique = true)
    (hdefault : rule.default = none) (values : List AttributeValue) :
    rule.finishList values = values.eraseDups := by
  rw [AttributeRule.finishList, hunique, hdefault, if_pos rfl]
  split
  next hnil => exact hnil.symm
  next => rfl

theorem Registered.settled {decls : List Declaration} {builder : CatalogBuilder}
    (h : Registered decls builder) {name : String} {path : List Declaration} (hsome : path ≠ [])
    (hline : List.Forall₂ Describes (builder.hierarchy.lineage name) path) :
    ∃ frozen, builder.hierarchy.freeze.get? name = some frozen ∧ Settled path frozen := by
  have hne : builder.hierarchy.lineage name ≠ [] := by
    rintro hnil
    rw [hnil] at hline
    exact hsome (List.forall₂_nil_left_iff.mp hline)
  have hget : ∀ {attr : String} {rule : AttributeRule},
      Dictionary.get? Attribute.rules attr = some rule →
      ∃ type, builder.hierarchy.freeze.get? name = some type ∧ type.get? attr =
        some (rule.finish (gathered attr rule.isList (builder.hierarchy.lineage name))) := by
    intro attr rule hrule
    obtain ⟨type, htype, hattr, _⟩ := get?_freeze_of_isSteady (h.rules_nodup name)
      ((h.grounded.ruleAlong hne attr).trans hrule) (h.grounded.isSteady name hrule)
    exact ⟨type, htype, hattr⟩
  -- whichever attribute is asked for, the frozen type is the same
  have hcolumn : Dictionary.get? Attribute.rules Attribute.column = some {} := rfl
  obtain ⟨frozen, hfrozen, _⟩ := hget hcolumn
  have hattr : ∀ {attr : String} {rule : AttributeRule},
      Dictionary.get? Attribute.rules attr = some rule → frozen.get? attr =
        some (rule.finish (gathered attr rule.isList (builder.hierarchy.lineage name))) := by
    intro attr rule hrule
    obtain ⟨type, htype, hattr⟩ := hget hrule
    rwa [Option.some.inj (hfrozen.symm.trans htype)]
  have hmap : ∀ {attr : String}, attr ≠ Attribute.availableOperators →
      (∀ decl : Declaration, attr ∈ decl.entries.names) →
      (untilStop attr (builder.hierarchy.lineage name)).map (held attr) = path.map (said attr) := by
    intro attr hattr hnames
    rw [untilStop_of_ne hline hattr, map_held hline hnames]
  have hnames : ∀ decl : Declaration, decl.entries.names = [Attribute.column,
      Attribute.availableOperators, Attribute.defaultOperator, Attribute.tableJoins,
      Attribute.heavy] := fun _ => rfl
  refine ⟨frozen, hfrozen, ?_, ?_, ?_, ?_, ?_⟩
  · rw [FrozenType.scalar, hattr rfl, gathered_eq_map, hmap (by decide) (by simp [hnames])]
    exact Option.or_none
  · rw [FrozenType.list, hattr rfl, gathered_eq_map,
      map_held (describes_untilStop hline) (by simp [hnames]), ← List.map_reverse]
    exact finishList_eq_eraseDups rfl rfl _
  · rw [FrozenType.scalar, hattr rfl, gathered_eq_map, hmap (by decide) (by simp [hnames])]
    exact Option.or_none
  · rw [FrozenType.list, hattr rfl, gathered_eq_map, hmap (by decide) (by simp [hnames]),
      ← List.map_reverse]
    exact finishList_eq_eraseDups rfl rfl _
  · rw [FrozenType.scalar, hattr rfl, gathered_eq_map, hmap (by decide) (by simp [hnames])]
    rfl

theorem Registered.exists_settled {decls : List Declaration} {builder : CatalogBuilder}
    (h : Registered decls builder) {decl : Declaration} (hdecl : decl ∈ baseDeclaration :: decls) :
    ∃ above frozen, Ancestry decls (decl :: above) ∧
      List.Forall₂ Describes (builder.hierarchy.lineage decl.name) (decl :: above) ∧
      builder.hierarchy.freeze.get? decl.name = some frozen ∧ Settled (decl :: above) frozen := by
  have hnames : (baseDeclaration :: decls).map Declaration.name = baseFilter :: decls.map Declaration.name :=
    rfl
  obtain ⟨path, hpath, hstart, hline⟩ :=
    h.described decl.name (hnames ▸ List.mem_map_of_mem hdecl)
  obtain ⟨first, above, rfl, hfirst⟩ := hpath.head
  have hsame : first = decl :=
    List.inj_on_of_nodup_map (hnames ▸ h.nodup) hfirst hdecl (Option.some.inj hstart)
  subst hsame
  obtain ⟨frozen, hfrozen, hsettled⟩ := h.settled (List.cons_ne_nil _ _) hline
  exact ⟨above, frozen, hpath, hline, hfrozen, hsettled⟩

end CatalogBuilder

namespace FilterType

theorem lookupFor_eq_ok_iff {registry : Registry} {name token : String} {op : Operator} :
    lookupFor registry name token = .ok op ↔ registry.lookup? token = some op := by
  rw [lookupFor, mapError_eq_ok, Registry.lookup]
  cases registry.lookup? token <;> simp

def tokensOf (frozen : FrozenType) : List String :=
  (frozen.list Attribute.availableOperators).filterMap AttributeValue.text?

def defaultTokenOf (frozen : FrozenType) : Option String :=
  (frozen.scalar Attribute.defaultOperator).bind AttributeValue.text?

structure Resolves (registry : Registry) (decl : Declaration) (frozen : FrozenType)
    (type : FilterType) : Prop where
  name : type.name = frozen.name
  parent : type.parent = frozen.parent
  isAbstract : type.isAbstract = decl.isAbstract
  column : type.column
    = ((frozen.scalar Attribute.column).bind AttributeValue.text?).getD ""
  joins : type.joins = (frozen.list Attribute.tableJoins).filterMap AttributeValue.join?
  heavy : type.isHeavy = frozen.flag Attribute.heavy
  display : type.display = frozen.flag Attribute.display
  operators : type.operators.map some = (tokensOf frozen).map registry.lookup?
  default : type.defaultOperator.map some = (defaultTokenOf frozen).map registry.lookup?
  offered : ∀ op ∈ type.defaultOperator, ∃ other ∈ type.operators, other.token = op.token
  concrete : type.isAbstract = false → type.operators ≠ []

theorem operators_of_mapM {registry : Registry} {name : String} {tokens : List String}
    {operators : List Operator} (h : tokens.mapM (lookupFor registry name) = .ok operators) :
    operators.map some = tokens.map registry.lookup? := by
  have hall := forall₂_of_mapM h
  clear h
  induction hall with
  | nil => rfl
  | cons hop _ ih => rw [List.map_cons, List.map_cons, ih, lookupFor_eq_ok_iff.mp hop]

theorem default_of_mapM {registry : Registry} {name : String} {token : Option String}
    {default : Option Operator} (h : token.mapM (lookupFor registry name) = .ok default) :
    default.map some = token.map registry.lookup? := by
  cases token with
  | none =>
    cases h
    rfl
  | some token =>
    rw [Option.mapM_some] at h
    cases hop : lookupFor registry name token with
    | error e =>
      rw [hop] at h
      cases h
    | ok op =>
      rw [hop] at h
      cases h
      rw [Option.map_some, Option.map_some, lookupFor_eq_ok_iff.mp hop]

theorem offered_of_checkDefault {name : String} {operators : List Operator} {op : Operator}
    {u : Unit} (h : checkDefault name operators op = .ok u) :
    ∃ other ∈ operators, other.token = op.token := by
  unfold checkDefault at h
  split at h
  next hany => simpa using hany
  next => cases h

theorem resolves_of_resolve {registry : Registry} {decl : Declaration} {frozen : FrozenType}
    {type : FilterType} (h : resolve registry decl frozen = .ok type) :
    Resolves registry decl frozen type := by
  rw [resolve] at h
  obtain ⟨operators, hoperators, h⟩ := exists_of_bind_eq_ok h
  obtain ⟨default, hdefault, h⟩ := exists_of_bind_eq_ok h
  have hoffered : ∀ op ∈ default, ∃ other ∈ operators, other.token = op.token := by
    rintro op rfl
    obtain ⟨_, hcheck, _⟩ := exists_of_bind_eq_ok h
    exact offered_of_checkDefault hcheck
  have htype : ¬(!decl.isAbstract && operators.isEmpty) ∧
      { name := frozen.name
        parent := frozen.parent
        column := ((frozen.scalar Attribute.column).bind AttributeValue.text?).getD ""
        joins := (frozen.list Attribute.tableJoins).filterMap AttributeValue.join?
        operators
        defaultOperator := default
        isHeavy := frozen.flag Attribute.heavy
        display := frozen.flag Attribute.display
        isAbstract := decl.isAbstract } = type := by
    cases default with
    | none =>
      simp only at h
      split at h
      · cases h
      · exact ⟨‹_›, Except.ok.inj h⟩
    | some op =>
      obtain ⟨_, _, h⟩ := exists_of_bind_eq_ok h
      split at h
      · cases h
      · exact ⟨‹_›, Except.ok.inj h⟩
  obtain ⟨hsome, rfl⟩ := htype
  refine ⟨rfl, rfl, rfl, rfl, rfl, rfl, rfl, operators_of_mapM hoperators, default_of_mapM hdefault,
    hoffered, ?_⟩
  intro hconcrete hnone
  exact hsome (by simp_all)

structure ReadsOff (registry : Registry) (path : List Declaration) (type : FilterType) : Prop where
  column : type.column = Ancestry.column path
  joins : type.joins = Ancestry.joins path
  tokens : type.operators.map Operator.token = Ancestry.tokens path
  operators : type.operators.map some = (Ancestry.tokens path).map registry.lookup?
  defaultToken : type.defaultOperator.map Operator.token = Ancestry.defaultToken path
  default : type.defaultOperator.map some = (Ancestry.defaultToken path).map registry.lookup?
  heavy : type.isHeavy = Ancestry.isHeavy path

section
open CatalogBuilder
variable {path : List Declaration} {frozen : FrozenType}

theorem head?_flatMap_toList (said : Declaration → Option α) (f : α → AttributeValue)
    (path : List Declaration) :
    (path.flatMap fun decl => (said decl).toList.map f).head? = (path.findSome? said).map f := by
  induction path with
  | nil => rfl
  | cons decl above ih =>
    rw [List.flatMap_cons, List.findSome?_cons, List.head?_append, ih]
    cases said decl <;> rfl

theorem column_of_settled (h : Settled path frozen) :
    ((frozen.scalar Attribute.column).bind AttributeValue.text?).getD "" = Ancestry.column path := by
  rw [h.column, Ancestry.column]
  clear h
  induction path with
  | nil => rfl
  | cons decl above ih =>
    rw [List.flatMap_cons, said_column]
    cases hempty : decl.column.isEmpty with
    | true => simpa [hempty] using ih
    | false => simp [hempty, AttributeValue.text?]

theorem joins_of_settled (h : Settled path frozen) :
    (frozen.list Attribute.tableJoins).filterMap AttributeValue.join? = Ancestry.joins path := by
  have hinj : Function.Injective AttributeValue.join := fun _ _ => AttributeValue.join.inj
  rw [h.joins, funext said_joins, ← List.map_flatMap, eraseDups_map hinj, List.filterMap_map,
    Ancestry.joins]
  exact List.filterMap_some

theorem tokens_of_settled (h : Settled path frozen) : tokensOf frozen = Ancestry.tokens path := by
  have hinj : Function.Injective AttributeValue.text := fun _ _ => AttributeValue.text.inj
  rw [tokensOf, h.operators, funext said_operators, ← List.map_flatMap, eraseDups_map hinj,
    List.filterMap_map, Ancestry.tokens]
  exact List.filterMap_some

theorem defaultToken_of_settled (h : Settled path frozen) :
    defaultTokenOf frozen = Ancestry.defaultToken path := by
  rw [defaultTokenOf, h.default, funext said_default, head?_flatMap_toList, Ancestry.defaultToken]
  clear h
  induction path with
  | nil => rfl
  | cons decl above ih =>
    rw [List.findSome?_cons, List.findSome?_cons]
    cases decl.defaultOperator with
    | none => exact ih
    | some token => rfl

theorem heavy_of_settled (h : Settled path frozen) :
    frozen.flag Attribute.heavy = Ancestry.isHeavy path := by
  rw [FrozenType.flag, h.heavy, funext said_heavy, head?_flatMap_toList, Ancestry.isHeavy]
  cases path.findSome? Declaration.isHeavy <;> rfl

theorem map_token_of_lookup? {registry : Registry} (hkeyed : registry.IsKeyed)
    {operators : List Operator} {tokens : List String}
    (h : operators.map some = tokens.map registry.lookup?) : operators.map Operator.token = tokens := by
  induction operators generalizing tokens with
  | nil =>
    rw [List.map_nil] at h
    exact (List.map_eq_nil_iff.mp h.symm).symm
  | cons op rest ih =>
    obtain ⟨token, more, rfl, htoken, hmore⟩ := List.map_eq_cons_iff.mp h.symm
    rw [List.map_cons, ih hmore.symm, Registry.token_of_lookup? hkeyed htoken]

theorem readsOff_of_settled {registry : Registry} (hkeyed : registry.IsKeyed) {decl : Declaration}
    {type : FilterType} (h : Settled path frozen) (hresolves : Resolves registry decl frozen type) :
    ReadsOff registry path type := by
  have hoperators := hresolves.operators
  have hdefault := hresolves.default
  rw [tokens_of_settled h] at hoperators
  rw [defaultToken_of_settled h] at hdefault
  refine ⟨hresolves.column.trans (column_of_settled h), hresolves.joins.trans (joins_of_settled h),
    map_token_of_lookup? hkeyed hoperators, hoperators, ?_, hdefault,
    hresolves.heavy.trans (heavy_of_settled h)⟩
  cases htoken : Ancestry.defaultToken path with
  | none =>
    rw [htoken] at hdefault
    rw [Option.map_eq_none_iff.mp hdefault]
    rfl
  | some token =>
    rw [htoken] at hdefault
    obtain ⟨op, hop, hlookup⟩ := Option.map_eq_some_iff.mp hdefault
    rw [hop, Option.map_some, Registry.token_of_lookup? hkeyed hlookup.symm]

end

end FilterType
end ReportFilters
