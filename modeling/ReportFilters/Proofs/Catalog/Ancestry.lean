import Mathlib.Data.List.Forall2
import Mathlib.Data.List.Induction
import Mathlib.Data.List.Nodup
import ReportFilters.Proofs.Catalog.Registration
import ReportFilters.Proofs.Outcome

/-! The ancestors of a type, as its declarations name them. After any registrations the lineage of a
type in the hierarchy is this path, node by node what the declarations say, and no other
declaration has a part in it. -/

namespace ReportFilters

/-- A declaration and those of its ancestors, from itself up to the base type. -/
inductive Ancestry (decls : List Declaration) : List Declaration → Prop
  | base : Ancestry decls [CatalogBuilder.baseDeclaration]
  | child {decl parent : Declaration} {above : List Declaration} (hdecl : decl ∈ decls)
    (hparent : decl.parent = parent.name) (habove : Ancestry decls (parent :: above)) :
    Ancestry decls (decl :: parent :: above)

def StartsAt (path : List Declaration) (name : String) : Prop :=
  (path.head?.map Declaration.name) = some name

namespace Ancestry

theorem mono {decls more : List Declaration} (hsub : decls ⊆ more) {path : List Declaration}
    (h : Ancestry decls path) : Ancestry more path := by
  induction h with
  | base => exact .base
  | child hdecl hparent _ ih => exact .child (hsub hdecl) hparent ih

theorem head {decls path : List Declaration} (h : Ancestry decls path) :
    ∃ decl above, path = decl :: above ∧ decl ∈ CatalogBuilder.baseDeclaration :: decls := by
  cases h with
  | base => exact ⟨_, _, rfl, List.mem_cons_self ..⟩
  | child hdecl => exact ⟨_, _, rfl, List.mem_cons_of_mem _ hdecl⟩

theorem unique {decls : List Declaration} (hnodup : (baseFilter :: decls.map Declaration.name).Nodup)
    {path other : List Declaration} (h : Ancestry decls path) (hother : Ancestry decls other)
    {name : String} (hname : StartsAt path name) (hname' : StartsAt other name) : path = other := by
  obtain ⟨hbase, hdecls⟩ := List.nodup_cons.mp hnodup
  have hnot : ∀ decl ∈ decls, decl.name ≠ baseFilter := by
    intro decl hdecl heq
    exact hbase (heq ▸ List.mem_map_of_mem hdecl)
  induction h generalizing other name with
  | base =>
    cases hother with
    | base => rfl
    | child hdecl =>
      have hstart := Option.some.inj (hname.trans hname'.symm)
      exact absurd hstart.symm (hnot _ hdecl)
  | @child decl parent above hdecl hparent habove ih =>
    cases hother with
    | base =>
      have hstart := Option.some.inj (hname.trans hname'.symm)
      exact absurd hstart (hnot _ hdecl)
    | @child decl' parent' above' hdecl' hparent' habove' =>
      have hsame : decl = decl' :=
        List.inj_on_of_nodup_map hdecls hdecl hdecl' (Option.some.inj (hname.trans hname'.symm))
      subst hsame
      have habove : StartsAt (parent' :: above') parent.name :=
        congrArg some (hparent'.symm.trans hparent)
      rw [ih habove' rfl habove]

end Ancestry

namespace CatalogBuilder
open Hierarchy SettledType

structure Describes (node : TypeNode) (decl : Declaration) : Prop where
  name : node.name = decl.name
  stops : node.stops = (decl.uses.filter OperatorUse.replacesInherited).map fun _ =>
    Attribute.availableOperators
  held : ∀ entry ∈ decl.entries, held entry.1 node = Attribute.stored entry.1 entry.2

theorem giveAll_induction {P : TypeNode → Prop} {node : TypeNode} (hnode : P node)
    (h : ∀ node values, P node → P { node with values })
    (entries : Dictionary (List AttributeValue)) : P (node.giveAll entries) := by
  induction entries generalizing node with
  | nil => exact hnode
  | cons entry rest ih => exact ih (TypeNode.give_induction hnode (fun _ => h _ _ hnode) _ _)

theorem isNew_node {decl : Declaration} {older : List TypeNode}
    (hfresh : ∀ n ∈ older, n.name ≠ decl.name) (shown : Option Bool) :
    IsNew decl older (decl.node shown) :=
  giveAll_induction ⟨rfl, rfl, rfl, hfresh⟩
    (fun _ _ hnew => ⟨hnew.name, hnew.parent, hnew.rules, hnew.fresh⟩) _

theorem held_node (decl : Declaration) (shown : Option Bool) :
    ∀ entry ∈ decl.shownEntries shown,
      held entry.1 (decl.node shown) = Attribute.stored entry.1 entry.2 := by
  let stored := (decl.shownEntries shown).map fun entry =>
    (entry.1, Attribute.stored entry.1 entry.2)
  have hnames : Dictionary.names stored = (decl.shownEntries shown).names := rfl
  rintro ⟨attr, values⟩ hentry
  have hget : (decl.shownEntries shown).get? attr = some values :=
    Dictionary.get?_of_mem (nodup_shownEntries decl shown) hentry
  have hnone : ∀ other ∈ Dictionary.names stored, held other decl.bareNode = [] := fun _ _ => rfl
  have hheld := TypeNode.held_giveAll (hnames ▸ nodup_shownEntries decl shown) hnone attr
  refine hheld.trans ?_
  rw [Dictionary.get?_map, hget]
  rfl

theorem describes_node (decl : Declaration) (shown : Option Bool) :
    Describes (decl.node shown) decl :=
  ⟨giveAll_induction (P := fun node => node.name = decl.name) rfl (fun _ _ h => h) _,
    giveAll_induction (P := fun node => node.stops = decl.bareNode.stops) rfl (fun _ _ h => h) _,
    fun entry hentry => held_node decl shown entry (List.mem_append_left _ hentry)⟩

theorem lineageIn_ne_nil_iff (nodes : List TypeNode) (name : String) :
    lineageIn nodes name ≠ [] ↔ name ∈ nodes.map TypeNode.name := by
  rw [← lineage, ← contains_iff_lineage]
  exact contains_iff_mem ⟨nodes⟩ name

structure Registered (decls : List Declaration) (builder : CatalogBuilder) : Prop where
  declarations : builder.declarations
    = (baseFilter, baseDeclaration) :: decls.map fun decl => (decl.name, decl)
  names : builder.hierarchy.names = baseFilter :: decls.map Declaration.name
  nodup : (baseFilter :: decls.map Declaration.name).Nodup
  grounded : IsGrounded builder.hierarchy.newestFirst
  rules_nodup : ∀ name, ∀ node ∈ builder.hierarchy.lineage name, node.rules.names.Nodup
  described : ∀ name ∈ baseFilter :: decls.map Declaration.name, ∃ path, Ancestry decls path ∧
    StartsAt path name ∧ List.Forall₂ Describes (builder.hierarchy.lineage name) path

theorem isGrounded_cons {node : TypeNode} {older : List TypeNode} (h : IsGrounded older)
    {decl : Declaration} (hnew : IsNew decl older node) (hparent : lineageIn older decl.parent ≠ []) :
    IsGrounded (node :: older) := by
  intro name n above hsuffix attr
  rw [hnew.lineageIn_cons] at hsuffix
  split at hsuffix
  · rcases List.suffix_cons_iff.mp hsuffix with heq | habove
    · cases heq
      rw [ruleAlong_cons, hnew.rules]
      exact h.ruleAlong hparent attr
    · exact h _ n above habove attr
  · exact h name n above hsuffix attr

theorem exists_root :
    ∃ root, empty.hierarchy.newestFirst = [root] ∧ root.name = baseFilter ∧ root.parent = none ∧
      root.rules = Attribute.rules ∧ Describes root baseDeclaration := by
  refine ⟨_, rfl, rfl, rfl, rfl, rfl, rfl, ?_⟩
  simp only [Declaration.entries, List.forall_mem_cons]
  exact ⟨rfl, rfl, rfl, rfl, rfl, by simp⟩

theorem registered_empty : Registered [] empty := by
  obtain ⟨root, hnodes, hname, hparent, hrules, hdescribes⟩ := exists_root
  have hline : ∀ name, lineageIn empty.hierarchy.newestFirst name
      = if baseFilter = name then [root] else [] := by
    intro name
    rw [hnodes, lineageIn_cons, hname, hparent]
    rfl
  refine ⟨rfl, rfl, List.nodup_singleton _, ?_, ?_, ?_⟩
  · intro name node above hsuffix attr
    rw [hline] at hsuffix
    split at hsuffix
    · rcases List.suffix_cons_iff.mp hsuffix with heq | hnil
      · cases heq
        rw [ruleAlong_cons, hrules]
        exact Option.or_none
      · exact absurd (List.suffix_nil.mp hnil) (List.cons_ne_nil _ _)
    · exact absurd (List.suffix_nil.mp hsuffix) (List.cons_ne_nil _ _)
  · intro name node hnode
    rw [lineage, hline] at hnode
    split at hnode
    · rw [List.mem_singleton.mp hnode, hrules]
      decide
    · cases hnode
  · intro name hmem
    have hbase : baseFilter = name := (List.mem_singleton.mp hmem).symm
    refine ⟨_, .base, congrArg some hbase, ?_⟩
    rw [lineage, hline, if_pos hbase]
    exact .cons hdescribes .nil

theorem Registered.entry_names {decls : List Declaration} {builder : CatalogBuilder}
    (h : Registered decls builder) :
    builder.declarations.names = baseFilter :: decls.map Declaration.name := by
  rw [h.declarations, Dictionary.names, List.map_cons, List.map_map]
  rfl

theorem Registered.contains_iff {decls : List Declaration} {builder : CatalogBuilder}
    (h : Registered decls builder) (name : String) :
    builder.hierarchy.contains name ↔ name ∈ baseFilter :: decls.map Declaration.name := by
  rw [contains_iff_lineage, lineage, lineageIn_ne_nil_iff, ← h.names, Hierarchy.names,
    List.mem_reverse]

theorem Registered.eq_of_register {decls : List Declaration} {builder next : CatalogBuilder}
    (h : Registered decls builder) {decl : Declaration} (hnext : builder.register decl = .ok next) :
    decl.name ∉ baseFilter :: decls.map Declaration.name ∧
    decl.parent ∈ baseFilter :: decls.map Declaration.name ∧
    next = { builder with
      hierarchy := ⟨decl.node (builder.displayValue decl) :: builder.hierarchy.newestFirst⟩
      declarations := builder.declarations.put decl.name decl } := by
  rw [← h.contains_iff, ← h.contains_iff]
  rw [register_of_isGrounded h.grounded] at hnext
  split at hnext
  · cases hnext
  split at hnext
  next hname hparent => exact ⟨hname, hparent, (Except.ok.inj hnext).symm⟩
  next => cases hnext

theorem Registered.isNew {decls : List Declaration} {builder : CatalogBuilder}
    (h : Registered decls builder) {decl : Declaration}
    (hname : decl.name ∉ baseFilter :: decls.map Declaration.name) (shown : Option Bool) :
    IsNew decl builder.hierarchy.newestFirst (decl.node shown) := by
  rw [← h.contains_iff] at hname
  refine isNew_node ?_ shown
  simpa [contains, node?] using hname

theorem Registered.register {decls : List Declaration} {builder next : CatalogBuilder}
    (h : Registered decls builder) {decl : Declaration} (hnext : builder.register decl = .ok next) :
    Registered (decls ++ [decl]) next := by
  obtain ⟨hname, hparent, rfl⟩ := h.eq_of_register hnext
  have hnew := h.isNew hname (builder.displayValue decl)
  have hline := (contains_iff_lineage _ _).mp ((h.contains_iff _).mpr hparent)
  have hsub : decls ⊆ decls ++ [decl] := List.subset_append_left _ _
  have hnames : baseFilter :: (decls ++ [decl]).map Declaration.name
      = (baseFilter :: decls.map Declaration.name) ++ [decl.name] := by simp
  refine ⟨?_, ?_, ?_, isGrounded_cons h.grounded hnew hline, ?_, ?_⟩
  · dsimp only
    rw [Dictionary.put_of_not_mem (h.entry_names ▸ hname), h.declarations, List.map_append]
    rfl
  · rw [hnames, ← h.names, Hierarchy.names, List.map_cons, List.reverse_cons, hnew.name]
    rfl
  · rw [hnames]
    exact List.nodup_append.mpr ⟨h.nodup, List.nodup_singleton _, by
      rintro name hmem _ hlast rfl
      exact hname (List.mem_singleton.mp hlast ▸ hmem)⟩
  · intro name node hnode
    rw [lineage, hnew.lineageIn_cons] at hnode
    split at hnode
    · rcases List.mem_cons.mp hnode with rfl | habove
      · rw [hnew.rules]
        exact List.nodup_nil
      · exact h.rules_nodup _ node habove
    · exact h.rules_nodup _ node hnode
  · intro name hmem
    rw [lineage, hnew.lineageIn_cons]
    by_cases hself : decl.name = name
    · obtain ⟨path, hpath, hstart, hdescribed⟩ := h.described _ hparent
      obtain ⟨parent, above, rfl, _⟩ := hpath.head
      rw [if_pos hself]
      exact ⟨decl :: parent :: above,
        .child (by simp) (Option.some.inj hstart).symm (hpath.mono hsub), congrArg some hself,
        .cons (describes_node decl _) hdescribed⟩
    · rw [hnames, List.mem_append, List.mem_singleton] at hmem
      obtain ⟨path, hpath, hstart, hdescribed⟩ :=
        h.described name (hmem.resolve_right fun heq => hself heq.symm)
      rw [if_neg hself]
      exact ⟨path, hpath.mono hsub, hstart, hdescribed⟩

theorem exists_of_registerAll_concat {decls : List Declaration} {decl : Declaration}
    {builder next : CatalogBuilder} (h : builder.registerAll (decls ++ [decl]) = .ok next) :
    ∃ before, builder.registerAll decls = .ok before ∧ before.register decl = .ok next := by
  rw [registerAll, List.foldlM_append] at h
  obtain ⟨before, hbefore, hlast⟩ := exists_of_bind_eq_ok h
  rw [List.foldlM_cons] at hlast
  obtain ⟨next', hnext, hrest⟩ := exists_of_bind_eq_ok hlast
  cases hrest
  exact ⟨before, hbefore, hnext⟩

theorem registered_of_registerAll {decls : List Declaration} {builder : CatalogBuilder}
    (h : empty.registerAll decls = .ok builder) : Registered decls builder := by
  induction decls using List.reverseRecOn generalizing builder with
  | nil =>
    cases h
    exact registered_empty
  | append_singleton decls decl ih =>
    obtain ⟨before, hbefore, hlast⟩ := exists_of_registerAll_concat h
    exact (ih hbefore).register hlast

end CatalogBuilder
end ReportFilters
