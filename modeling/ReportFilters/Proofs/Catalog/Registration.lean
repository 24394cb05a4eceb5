import ReportFilters.Catalog.Builder
import ReportFilters.Proofs.Hierarchy.Lineage

/-! Registration of declarations. A declaration whose name is new and whose parent is known becomes
one node on top of those there are, with what the declaration says and nothing else; all rules are
those of the base type. -/

namespace ReportFilters

namespace TypeNode
open Hierarchy

def give (node : TypeNode) (attr : String) (values : List AttributeValue) : TypeNode :=
  if values = [] then node else { node with values := node.values.put attr values }

theorem give_induction {P : TypeNode → Prop} {node : TypeNode} (hnode : P node)
    (h : ∀ values, P { node with values }) (attr : String) (values : List AttributeValue) :
    P (node.give attr values) := by
  unfold give
  split
  · exact hnode
  · exact h _

theorem held_give {node : TypeNode} {attr : String} (hnone : held attr node = [])
    (values : List AttributeValue) (other : String) :
    held other (node.give attr values) = if other = attr then values else held other node := by
  unfold give
  by_cases hempty : values = []
  · rw [if_pos hempty]
    split
    · rw [hempty, ‹other = attr›, hnone]
    · rfl
  · rw [if_neg hempty, held, Dictionary.get?_put]
    split <;> rfl

def giveAll (node : TypeNode) (entries : Dictionary (List AttributeValue)) : TypeNode :=
  entries.foldl (fun node (attr, values) => node.give attr values) node

theorem held_giveAll {node : TypeNode} {entries : Dictionary (List AttributeValue)}
    (hnodup : entries.names.Nodup) (hnone : ∀ attr ∈ entries.names, held attr node = [])
    (attr : String) :
    held attr (node.giveAll entries) = (entries.get? attr).getD (held attr node) := by
  induction entries generalizing node with
  | nil => rfl
  | cons entry rest ih =>
    obtain ⟨first, values⟩ := entry
    obtain ⟨hfirst, hrest⟩ := List.nodup_cons.mp hnodup
    have hheld := held_give (hnone first (List.mem_cons_self ..)) values
    have hlater : ∀ other ∈ Dictionary.names rest, held other (node.give first values) = [] := by
      intro other hother
      have hne : other ≠ first := by
        rintro rfl
        exact hfirst hother
      rw [hheld, if_neg hne, hnone other (List.mem_cons_of_mem _ hother)]
    rw [giveAll, List.foldl_cons]
    refine (ih hrest hlater).trans ?_
    rw [hheld, Dictionary.get?]
    by_cases heq : first = attr
    · rw [if_pos heq, ← heq, (Dictionary.get?_eq_none_iff rest first).mpr hfirst, if_pos rfl]
      rfl
    · rw [if_neg heq, if_neg (Ne.symm heq)]

end TypeNode

namespace Attribute

def stored (attr : String) (values : List AttributeValue) : List AttributeValue :=
  match Dictionary.get? rules attr with
  | some rule => rule.mapped values
  | none => values

theorem stored_of_rule {attr : String} {rule : AttributeRule}
    (h : Dictionary.get? rules attr = some rule) (values : List AttributeValue) :
    stored attr values = rule.mapped values := by
  rw [stored, h]

end Attribute

namespace Declaration

def entries (decl : Declaration) : Dictionary (List AttributeValue) := [
  (Attribute.column, if decl.column.isEmpty then [] else [.text decl.column]),
  (Attribute.availableOperators, (decl.uses.flatMap OperatorUse.tokens).map .text),
  (Attribute.defaultOperator, decl.defaultOperator.toList.map .text),
  (Attribute.tableJoins, decl.joins.map .join),
  (Attribute.heavy, decl.isHeavy.toList.map .bool)]

def bareNode (decl : Declaration) : TypeNode :=
  { name := decl.name
    parent := some decl.parent
    stops := (decl.uses.filter OperatorUse.replacesInherited).map fun _ =>
      Attribute.availableOperators }

def shownEntries (decl : Declaration) (shown : Option Bool) : Dictionary (List AttributeValue) :=
  decl.entries ++ [(Attribute.display, shown.toList.map .bool)]

def node (decl : Declaration) (shown : Option Bool) : TypeNode :=
  decl.bareNode.giveAll ((decl.shownEntries shown).map fun (attr, values) =>
    (attr, Attribute.stored attr values))

end Declaration

namespace Hierarchy
open SettledType

theorem updateNode_head {node : TypeNode} {older : List TypeNode}
    (hfresh : ∀ n ∈ older, n.name ≠ node.name) (f : TypeNode → TypeNode) :
    updateNode ⟨node :: older⟩ node.name f = .ok ⟨f node :: older⟩ := by
  have hcontains : contains ⟨node :: older⟩ node.name := by simp [contains, node?]
  have holder : (older.map fun n => if n.name = node.name then f n else n) = older := by
    refine (List.map_congr_left fun n hn => ?_).trans (List.map_id older)
    exact if_neg (hfresh n hn)
  rw [updateNode, if_pos hcontains, List.map_cons, if_pos rfl, holder]

theorem set_head {node : TypeNode} {older : List TypeNode} {attr : String} {rule : AttributeRule}
    {values : List AttributeValue} (hfresh : ∀ n ∈ older, n.name ≠ node.name)
    (hrule : ruleAlong attr (lineage ⟨node :: older⟩ node.name) = some rule)
    (hnone : held attr node = []) (hsome : values ≠ [])
    (hfit : rule.isList ∨ values.length = 1) :
    set ⟨node :: older⟩ node.name attr values
      = .ok ⟨node.give attr (rule.mapped values) :: older⟩ := by
  have hlength : (rule.mapped values).length = values.length := by
    unfold AttributeRule.mapped
    split <;> simp
  have hmapped : rule.mapped values ≠ [] := by
    rw [← List.length_pos_iff, hlength, List.length_pos_iff]
    exact hsome
  have hone : (!rule.isList && decide ((rule.mapped values).length ≠ 1)) = false := by
    rw [hlength]
    rcases hfit with hlist | hlength <;> simp [*]
  rw [set, rule_of_ruleAlong hrule, ok_bind]
  dsimp only
  rw [hone, if_neg Bool.false_ne_true, updateNode_head hfresh, TypeNode.give, if_neg hmapped]
  unfold held at hnone
  rw [hnone]
  cases rule.isList <;> rfl

end Hierarchy

namespace CatalogBuilder
open Hierarchy SettledType

/-- Wherever a lineage is entered, the rules seen from there are those of the base type. -/
def IsGrounded (nodes : List TypeNode) : Prop :=
  ∀ name node above, node :: above <:+ lineageIn nodes name →
    ∀ attr, ruleAlong attr (node :: above) = Dictionary.get? Attribute.rules attr

theorem IsGrounded.ruleAlong {nodes : List TypeNode} {name : String} (h : IsGrounded nodes)
    (hname : lineageIn nodes name ≠ []) (attr : String) :
    ruleAlong attr (lineageIn nodes name) = Dictionary.get? Attribute.rules attr := by
  obtain ⟨node, above, hline⟩ := List.exists_cons_of_ne_nil hname
  rw [hline]
  exact h name node above (hline ▸ List.suffix_refl _) attr

theorem IsGrounded.isSteady {nodes : List TypeNode} (h : IsGrounded nodes) (name : String)
    {attr : String} {rule : AttributeRule} (hrule : Dictionary.get? Attribute.rules attr = some rule) :
    IsSteady attr rule.isList (lineageIn nodes name) :=
  fun node above hsuffix => ⟨rule, (h name node above hsuffix attr).trans hrule, rfl⟩

structure IsNew (decl : Declaration) (older : List TypeNode) (node : TypeNode) : Prop where
  name : node.name = decl.name
  parent : node.parent = some decl.parent
  rules : node.rules = []
  fresh : ∀ n ∈ older, n.name ≠ node.name

section
variable {decl : Declaration} {older : List TypeNode} {node : TypeNode}

theorem IsNew.lineageIn_cons (hnew : IsNew decl older node) (name : String) :
    lineageIn (node :: older) name =
      if decl.name = name then node :: lineageIn older decl.parent else lineageIn older name := by
  rw [Hierarchy.lineageIn_cons, hnew.name, hnew.parent]
  rfl

theorem IsNew.ruleAlong (hnew : IsNew decl older node) (attr : String) :
    ruleAlong attr (lineage ⟨node :: older⟩ node.name)
      = ruleAlong attr (lineageIn older decl.parent) := by
  rw [lineage, hnew.lineageIn_cons, if_pos hnew.name.symm, ruleAlong_cons, hnew.rules]
  rfl

theorem IsNew.give (hnew : IsNew decl older node) (attr : String) (values : List AttributeValue) :
    IsNew decl older (node.give attr values) :=
  TypeNode.give_induction hnew (fun _ => ⟨hnew.name, hnew.parent, hnew.rules, hnew.fresh⟩) attr values

theorem IsNew.updateNode (hnew : IsNew decl older node) (f : TypeNode → TypeNode) :
    updateNode ⟨node :: older⟩ decl.name f = .ok ⟨f node :: older⟩ := by
  rw [← hnew.name]
  exact updateNode_head hnew.fresh f

theorem stopOperators_head (hnew : IsNew decl older decl.bareNode) :
    stopOperators decl ⟨{ name := decl.name, parent := some decl.parent } :: older⟩
      = .ok ⟨decl.bareNode :: older⟩ := by
  have hrun : ∀ (uses : List OperatorUse) (node : TypeNode), IsNew decl older node →
      uses.foldlM (fun h (_ : OperatorUse) => h.stop decl.name Attribute.availableOperators)
          (⟨node :: older⟩ : Hierarchy)
        = .ok ⟨{ node with
            stops := node.stops ++ uses.map fun _ => Attribute.availableOperators } :: older⟩ := by
    intro uses
    induction uses with
    | nil =>
      intro node _
      rw [List.map_nil, List.append_nil]
      rfl
    | cons use rest ih =>
      intro node hnode
      rw [List.foldlM_cons, Hierarchy.stop, hnode.updateNode]
      let stopped : TypeNode :=
        { node with stops := node.stops ++ [Attribute.availableOperators] }
      refine (ih stopped ⟨hnode.name, hnode.parent, hnode.rules, hnode.fresh⟩).trans ?_
      rw [List.map_cons, List.append_assoc]
      rfl
  exact hrun _ _ ⟨rfl, rfl, rfl, hnew.fresh⟩

def setEach (name : String) (entries : Dictionary (List AttributeValue)) (h : Hierarchy) :
    Except Error Hierarchy :=
  entries.foldlM (fun h (attr, values) => setUnless values.isEmpty name attr values h) h

@[simp] theorem setEach_cons (name attr : String) (values : List AttributeValue)
    (rest : Dictionary (List AttributeValue)) (h : Hierarchy) :
    setEach name ((attr, values) :: rest) h
      = setUnless values.isEmpty name attr values h >>= setEach name rest := rfl

theorem setEach_head {entries : Dictionary (List AttributeValue)}
    (hrules : ∀ attr, ruleAlong attr (lineageIn older decl.parent)
      = Dictionary.get? Attribute.rules attr)
    (hfit : ∀ entry ∈ entries, ∃ rule, Dictionary.get? Attribute.rules entry.1 = some rule ∧
      (rule.isList ∨ entry.2.length ≤ 1))
    (hnodup : entries.names.Nodup) (hnew : IsNew decl older node)
    (hnone : ∀ attr ∈ entries.names, held attr node = []) :
    setEach decl.name entries ⟨node :: older⟩
      = .ok ⟨node.giveAll (entries.map fun (attr, values) => (attr, Attribute.stored attr values))
          :: older⟩ := by
  induction entries generalizing node with
  | nil => rfl
  | cons entry rest ih =>
    obtain ⟨attr, values⟩ := entry
    obtain ⟨hattr, hrest⟩ := List.nodup_cons.mp hnodup
    have hnodenone := hnone attr (List.mem_cons_self ..)
    have hstep : setUnless values.isEmpty decl.name attr values ⟨node :: older⟩
        = .ok ⟨node.give attr (Attribute.stored attr values) :: older⟩ := by
      obtain ⟨rule, hrule, hfit⟩ := hfit (attr, values) (List.mem_cons_self ..)
      dsimp only at hrule hfit
      rw [Attribute.stored_of_rule hrule]
      by_cases hempty : values = []
      · subst hempty
        have hmapped : rule.mapped [] = [] := by
          unfold AttributeRule.mapped
          split <;> rfl
        rw [setUnless, if_pos (by rfl), hmapped, TypeNode.give, if_pos rfl]
      · have hone : rule.isList ∨ values.length = 1 := by
          have hpos := List.length_pos_iff.mpr hempty
          exact hfit.imp_right fun hle => by omega
        rw [setUnless, if_neg (by simpa using hempty), ← hnew.name]
        exact set_head hnew.fresh ((hnew.ruleAlong attr).trans ((hrules attr).trans hrule)) hnodenone
          hempty hone
    have hlater : ∀ other ∈ Dictionary.names rest,
        held other (node.give attr (Attribute.stored attr values)) = [] := by
      intro other hother
      have hne : other ≠ attr := by
        rintro rfl
        exact hattr hother
      rw [TypeNode.held_give hnodenone, if_neg hne, hnone other (List.mem_cons_of_mem _ hother)]
    rw [setEach_cons, hstep, ok_bind]
    exact ih (fun entry hentry => hfit entry (List.mem_cons_of_mem _ hentry)) hrest
      (hnew.give attr _) hlater

end

theorem exists_rule_of_mem_shownEntries (decl : Declaration) (shown : Option Bool) :
    ∀ entry ∈ decl.shownEntries shown, ∃ rule, Dictionary.get? Attribute.rules entry.1 = some rule ∧
      (rule.isList ∨ entry.2.length ≤ 1) := by
  have hcolumn : (if decl.column.isEmpty then [] else [AttributeValue.text decl.column]).length
      ≤ 1 := by
    split <;> simp
  have hoption : ∀ {α : Type} (o : Option α) (f : α → AttributeValue),
      (o.toList.map f).length ≤ 1 := by
    intro α o f
    cases o <;> simp
  simp only [Declaration.shownEntries, Declaration.entries, List.cons_append, List.nil_append,
    List.forall_mem_cons]
  exact ⟨⟨_, rfl, .inr hcolumn⟩, ⟨_, rfl, .inl rfl⟩, ⟨_, rfl, .inr (hoption _ _)⟩,
    ⟨_, rfl, .inl rfl⟩, ⟨_, rfl, .inr (hoption _ _)⟩, ⟨_, rfl, .inr (hoption _ _)⟩, by simp⟩

theorem nodup_shownEntries (decl : Declaration) (shown : Option Bool) :
    (decl.shownEntries shown).names.Nodup := by
  have hnames : (decl.shownEntries shown).names =
      [Attribute.column, Attribute.availableOperators, Attribute.defaultOperator,
        Attribute.tableJoins, Attribute.heavy, Attribute.display] := rfl
  rw [hnames]
  decide

theorem register_eq_setEach (builder : CatalogBuilder) (decl : Declaration) :
    builder.register decl = (do
      let h ← builder.hierarchy.addType decl.name (some decl.parent)
      let h ← stopOperators decl h
      let h ← setEach decl.name (decl.shownEntries (builder.displayValue decl)) h
      pure { builder with
        hierarchy := h, declarations := builder.declarations.put decl.name decl }) := by
  have hcolumn : ∀ h, setUnless decl.column.isEmpty decl.name Attribute.column [.text decl.column] h
      = setUnless (if decl.column.isEmpty then [] else [AttributeValue.text decl.column]).isEmpty
        decl.name Attribute.column
        (if decl.column.isEmpty then [] else [AttributeValue.text decl.column]) h := by
    intro h
    cases decl.column.isEmpty <;> rfl
  have hoption : ∀ {α : Type} (o : Option α) (f : α → AttributeValue),
      (o.toList.map f).isEmpty = o.isNone := by
    intro α o f
    cases o <;> rfl
  simp only [register, setEach, Declaration.shownEntries, Declaration.entries, List.cons_append,
    List.nil_append, List.foldlM_cons, List.foldlM_nil, hcolumn, hoption, List.isEmpty_map,
    bind_assoc, pure_bind]

theorem register_of_isGrounded {builder : CatalogBuilder}
    (hground : IsGrounded builder.hierarchy.newestFirst) (decl : Declaration) :
    builder.register decl =
      if builder.hierarchy.contains decl.name then .error (Error.duplicateFilterType decl.name)
      else if builder.hierarchy.contains decl.parent then
        .ok { builder with
          hierarchy := ⟨decl.node (builder.displayValue decl) :: builder.hierarchy.newestFirst⟩
          declarations := builder.declarations.put decl.name decl }
      else .error (Error.unknownParentType decl.name decl.parent) := by
  rw [register_eq_setEach, addType]
  by_cases hname : builder.hierarchy.contains decl.name
  · rw [if_pos hname, if_pos hname]
    rfl
  rw [if_neg hname, if_neg hname]
  by_cases hparent : builder.hierarchy.contains decl.parent
  · have hfresh : ∀ n ∈ builder.hierarchy.newestFirst, n.name ≠ decl.name := by
      simpa [contains, node?] using hname
    have hnew : IsNew decl builder.hierarchy.newestFirst decl.bareNode := ⟨rfl, rfl, rfl, hfresh⟩
    have hset := setEach_head (hground.ruleAlong ((contains_iff_lineage _ _).mp hparent))
      (exists_rule_of_mem_shownEntries decl (builder.displayValue decl))
      (nodup_shownEntries decl _) hnew fun _ _ => rfl
    rw [if_pos hparent, if_pos hparent, ok_bind, stopOperators_head hnew, ok_bind, hset]
    rfl
  · rw [if_neg hparent, if_neg hparent]
    rfl

end CatalogBuilder
end ReportFilters
