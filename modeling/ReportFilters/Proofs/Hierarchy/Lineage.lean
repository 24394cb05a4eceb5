import Mathlib.Data.List.Nodup
import ReportFilters.Hierarchy.Frozen
import ReportFilters.Proofs.Outcome

/-! What a frozen type has of an attribute, read off its lineage. A type is settled from its own node
and from what its parent was found to have, so the nodes from the type up to the root are all that
counts. Freezing finds what a walk along the lineage finds up to the first type that sees the attribute
as the other kind, and so the same as the walk if there is none. -/

namespace ReportFilters

namespace SettledType

def ofLineage : List TypeNode → Option SettledType
  | [] => none
  | node :: above => some (ofNode node (ofLineage above))

def ruleAlong (attr : String) (line : List TypeNode) : Option AttributeRule :=
  line.findSome? fun node => node.rules.get? attr

theorem ruleAlong_cons (attr : String) (node : TypeNode) (above : List TypeNode) :
    ruleAlong attr (node :: above) = (node.rules.get? attr).or (ruleAlong attr above) := by
  rw [ruleAlong, List.findSome?_cons]
  cases node.rules.get? attr <;> rfl

theorem rules_ofLineage {line : List TypeNode} (h : ∀ node ∈ line, node.rules.names.Nodup)
    (attr : String) :
    (((ofLineage line).map rules).getD []).get? attr = ruleAlong attr line := by
  induction line with
  | nil => rfl
  | cons node above ih =>
    have habove := ih fun node hnode => h node (List.mem_cons_of_mem _ hnode)
    rw [ruleAlong_cons, ← habove]
    exact Dictionary.get?_foldl_put (h node (List.mem_cons_self ..)) _ attr

theorem raw_ofNode (node : TypeNode) (parent : Option SettledType) (attr : String) :
    (ofNode node parent).raw.get? attr
      = ((ofNode node parent).rules.get? attr).map (settle node parent attr) :=
  Dictionary.get?_map _ (settle node parent) attr

@[simp] theorem parent_finish_ofNode (node : TypeNode) (parent : Option SettledType) :
    (ofNode node parent).finish.parent = node.parent := rfl

theorem get?_finish (settled : SettledType) (attr : String) :
    settled.finish.get? attr
      = (settled.rules.get? attr).bind fun rule => (settled.raw.get? attr).map rule.finish :=
  Dictionary.get?_filterMap settled.rules settled.raw.get? AttributeRule.finish attr

end SettledType

namespace Hierarchy
open SettledType

theorem lineageIn_cons (node : TypeNode) (older : List TypeNode) (name : String) :
    lineageIn (node :: older) name =
      if node.name = name then node :: (node.parent.map (lineageIn older)).getD []
      else lineageIn older name := by
  rw [lineageIn]
  cases node.parent <;> rfl

theorem mem_of_mem_lineageIn {nodes : List TypeNode} {name : String} {node : TypeNode}
    (h : node ∈ lineageIn nodes name) : node ∈ nodes := by
  induction nodes generalizing name with
  | nil => cases h
  | cons n older ih =>
    rw [lineageIn_cons] at h
    split at h
    · rcases List.mem_cons.mp h with rfl | h
      · exact List.mem_cons_self ..
      · cases hparent : n.parent with
        | none =>
          rw [hparent] at h
          cases h
        | some parent =>
          rw [hparent] at h
          exact List.mem_cons_of_mem _ (ih h)
    · exact List.mem_cons_of_mem _ (ih h)

theorem lineageIn_cons_of_mem {node : TypeNode} {older : List TypeNode}
    (hnodup : ((node :: older).map TypeNode.name).Nodup) {n : TypeNode} (hn : n ∈ older) :
    lineageIn (node :: older) n.name = lineageIn older n.name := by
  rw [lineageIn_cons, if_neg]
  intro hsame
  exact (List.nodup_cons.mp hnodup).1 (hsame ▸ List.mem_map_of_mem hn)

theorem lineageIn_of_suffix {nodes : List TypeNode} (hnodup : (nodes.map TypeNode.name).Nodup)
    {name : String} {node : TypeNode} {above : List TypeNode}
    (h : node :: above <:+ lineageIn nodes name) : lineageIn nodes node.name = node :: above := by
  induction nodes generalizing name with
  | nil => exact absurd (List.suffix_nil.mp h) (List.cons_ne_nil _ _)
  | cons n older ih =>
    have hback : ∀ name', node :: above <:+ lineageIn older name' →
        lineageIn (n :: older) node.name = node :: above := by
      intro name' h'
      have hnode : node ∈ older := mem_of_mem_lineageIn (h'.subset (List.mem_cons_self ..))
      rw [lineageIn_cons_of_mem hnodup hnode]
      exact ih (List.nodup_cons.mp hnodup).2 h'
    rw [lineageIn_cons] at h
    split at h
    · rcases List.suffix_cons_iff.mp h with heq | h
      · cases heq
        rw [lineageIn_cons, if_pos rfl]
      · cases hparent : n.parent with
        | none =>
          rw [hparent] at h
          exact absurd (List.suffix_nil.mp h) (List.cons_ne_nil _ _)
        | some parent =>
          rw [hparent] at h
          exact hback parent h
    · exact hback name h

theorem lineageIn_map {f : TypeNode → TypeNode} (hname : ∀ n, (f n).name = n.name)
    (hparent : ∀ n, (f n).parent = n.parent) (nodes : List TypeNode) (name : String) :
    lineageIn (nodes.map f) name = (lineageIn nodes name).map f := by
  induction nodes generalizing name with
  | nil => rfl
  | cons n older ih =>
    rw [List.map_cons, lineageIn_cons, lineageIn_cons, hname, hparent, ih]
    split
    · cases n.parent with
      | none => rfl
      | some parent => simp [ih]
    · rfl

theorem contains_iff_lineage (h : Hierarchy) (name : String) :
    h.contains name ↔ h.lineage name ≠ [] := by
  obtain ⟨nodes⟩ := h
  rw [contains, node?, lineage]
  induction nodes with
  | nil => simp [lineageIn]
  | cons node older ih =>
    rw [lineageIn_cons]
    by_cases h : node.name = name
    · simp [h]
    · rw [List.find?_cons_of_neg (by simpa using h), if_neg h]
      exact ih

theorem contains_iff_mem (h : Hierarchy) (name : String) :
    h.contains name = true ↔ name ∈ h.newestFirst.map TypeNode.name := by
  simp [contains, node?]

theorem find?_settleAll (nodes : List TypeNode) (name : String) :
    (settleAll nodes).find? (fun s => s.node.name = name) = ofLineage (lineageIn nodes name) := by
  induction nodes generalizing name with
  | nil => rfl
  | cons node older ih =>
    have hparent : (node.parent.bind fun p => (settleAll older).find? fun s => s.node.name = p)
        = ofLineage ((node.parent.map (lineageIn older)).getD []) := by
      cases node.parent with
      | none => rfl
      | some parent => exact ih parent
    rw [settleAll, lineageIn_cons]
    by_cases h : node.name = name
    · rw [if_pos h, ofLineage, ← hparent]
      exact List.find?_cons_of_pos (decide_eq_true h)
    · rw [List.find?_cons_of_neg (by simpa [ofNode] using h), if_neg h]
      exact ih name

theorem get?_freeze (h : Hierarchy) (name : String) :
    h.freeze.get? name = (ofLineage (h.lineage name)).map finish := by
  rw [FrozenHierarchy.get?, freeze, List.find?_map, lineage, ← find?_settleAll]
  rfl

theorem name_of_get?_freeze {h : Hierarchy} {name : String} {type : FrozenType}
    (hget : h.freeze.get? name = some type) : type.name = name := by
  have hname := List.find?_some hget
  exact of_decide_eq_true hname

theorem parent_of_get?_freeze {h : Hierarchy} {name : String} {frozen : FrozenType}
    (hget : h.freeze.get? name = some frozen) :
    frozen.parent = (h.lineage name).head?.bind TypeNode.parent := by
  rw [get?_freeze] at hget
  obtain ⟨settled, hsettled, rfl⟩ := Option.map_eq_some_iff.mp hget
  cases hline : h.lineage name with
  | nil =>
    rw [hline] at hsettled
    cases hsettled
  | cons node above =>
    rw [hline] at hsettled
    cases hsettled
    rfl

def IsSteady (attr : String) (isList : Bool) (line : List TypeNode) : Prop :=
  ∀ node above, node :: above <:+ line →
    ∃ rule, ruleAlong attr (node :: above) = some rule ∧ rule.isList = isList

theorem IsSteady.above {attr : String} {isList : Bool} {node : TypeNode} {above : List TypeNode}
    (h : IsSteady attr isList (node :: above)) : IsSteady attr isList above :=
  fun n rest hsuffix => h n rest (hsuffix.trans (List.suffix_cons _ _))

/-- What a walk along the lineage finds, before duplicates are dropped and defaults filled in. -/
def gathered (attr : String) (isList : Bool) (line : List TypeNode) : Resolved :=
  if isList then .list ((untilStop attr line).reverse.flatMap (held attr))
  else .scalar ((untilStop attr line).findSome? fun node => (held attr node).head?)

theorem rule_of_ruleAlong {h : Hierarchy} {name attr : String} {rule : AttributeRule}
    (hrule : ruleAlong attr (h.lineage name) = some rule) : h.rule name attr = .ok rule := by
  have hname : h.contains name := by
    rw [contains_iff_lineage]
    intro hnil
    rw [hnil] at hrule
    cases hrule
  rw [ruleAlong] at hrule
  rw [Hierarchy.rule, if_pos hname, hrule]

theorem ruleAlong_of_rule {h : Hierarchy} {name attr : String} {rule : AttributeRule}
    (hrule : h.rule name attr = .ok rule) : ruleAlong attr (h.lineage name) = some rule := by
  rw [Hierarchy.rule] at hrule
  split at hrule
  · split at hrule
    next hfound =>
      cases hrule
      exact hfound
    next => cases hrule
  · cases hrule

theorem get_of_ruleAlong {h : Hierarchy} {name attr : String} {rule : AttributeRule}
    (hrule : ruleAlong attr (h.lineage name) = some rule) :
    h.get name attr = .ok (rule.finish (gathered attr rule.isList (h.lineage name))) := by
  rw [get, rule_of_ruleAlong hrule, ok_bind, gathered]
  dsimp only
  split <;> rfl

def ofKind (attr : String) (isList : Bool) : List TypeNode → List TypeNode
  | [] => []
  | node :: above =>
    if (ruleAlong attr (node :: above)).map AttributeRule.isList = some isList then
      node :: ofKind attr isList above
    else []

theorem ofKind_cons {attr : String} {node : TypeNode} {above : List TypeNode} {rule : AttributeRule}
    (hrule : ruleAlong attr (node :: above) = some rule) :
    ofKind attr rule.isList (node :: above) = node :: ofKind attr rule.isList above := by
  rw [ofKind, hrule, Option.map_some, if_pos rfl]

theorem ofKind_eq_nil {attr : String} {isList : Bool} {line : List TypeNode}
    (h : (ruleAlong attr line).map AttributeRule.isList ≠ some isList) :
    ofKind attr isList line = [] := by
  cases line with
  | nil => rfl
  | cons node above => rw [ofKind, if_neg h]

theorem IsSteady.ofKind_eq {attr : String} {isList : Bool} {line : List TypeNode}
    (h : IsSteady attr isList line) : ofKind attr isList line = line := by
  induction line with
  | nil => rfl
  | cons node above ih =>
    obtain ⟨rule, hrule, rfl⟩ := h node above (List.suffix_refl _)
    rw [ofKind_cons hrule, ih h.above]

theorem settle_eq_gathered {attr : String} {node : TypeNode} {above : List TypeNode}
    {parent : Option SettledType}
    (hparent : (parent.bind fun p => p.raw.get? attr)
      = (ruleAlong attr above).map fun r => gathered attr r.isList (ofKind attr r.isList above))
    (rule : AttributeRule) :
    settle node parent attr rule = gathered attr rule.isList (node :: ofKind attr rule.isList above) := by
  rw [settle, gathered, untilStop]
  by_cases hstop : node.stops.contains attr = true
  · rw [if_pos hstop, if_pos hstop]
    cases rule.isList with
    | true => simp
    | false => cases hown : (held attr node).head? <;> simp [hown]
  rw [if_neg hstop, if_neg hstop, hparent]
  by_cases hkind : (ruleAlong attr above).map AttributeRule.isList = some rule.isList
  · obtain ⟨r, hr, hsame⟩ := Option.map_eq_some_iff.mp hkind
    rw [hr, Option.map_some, hsame, gathered]
    cases rule.isList with
    | true => simp
    | false => cases hown : (held attr node).head? <;> simp [hown]
  · -- what the parent has is of the other kind, if it has anything
    rw [ofKind_eq_nil hkind]
    cases hr : ruleAlong attr above with
    | none => cases rule.isList <;> cases hown : (held attr node).head? <;> simp [hown, untilStop]
    | some r =>
      rw [hr, Option.map_some, Option.some_inj] at hkind
      rw [Option.map_some, gathered]
      cases hlist : rule.isList <;> cases hother : r.isList
      · exact absurd (hother.trans hlist.symm) hkind
      · cases hown : (held attr node).head? <;> simp [hown, untilStop]
      · simp [untilStop]
      · exact absurd (hother.trans hlist.symm) hkind

theorem raw_ofLineage {attr : String} {line : List TypeNode}
    (hnodup : ∀ node ∈ line, node.rules.names.Nodup) :
    ((ofLineage line).bind fun s => s.raw.get? attr)
      = (ruleAlong attr line).map fun rule =>
        gathered attr rule.isList (ofKind attr rule.isList line) := by
  induction line with
  | nil => rfl
  | cons node above ih =>
    have habove := ih fun node hnode => hnodup node (List.mem_cons_of_mem _ hnode)
    have hrules := rules_ofLineage hnodup attr
    rw [ofLineage, Option.map_some, Option.getD_some] at hrules
    rw [ofLineage, Option.bind_some, raw_ofNode, hrules]
    cases hrule : ruleAlong attr (node :: above) with
    | none => rfl
    | some rule =>
      rw [Option.map_some, Option.map_some, settle_eq_gathered habove, ofKind_cons hrule]

theorem get?_of_freeze {h : Hierarchy} {name : String} {type : FrozenType}
    (hnodup : ∀ node ∈ h.lineage name, node.rules.names.Nodup)
    (hget : h.freeze.get? name = some type) (attr : String) :
    type.get? attr = (ruleAlong attr (h.lineage name)).map fun rule =>
      rule.finish (gathered attr rule.isList (ofKind attr rule.isList (h.lineage name))) := by
  have hraw := @raw_ofLineage attr _ hnodup
  have hrules := rules_ofLineage hnodup attr
  rw [get?_freeze] at hget
  obtain ⟨settled, hsettled, rfl⟩ := Option.map_eq_some_iff.mp hget
  rw [hsettled, Option.bind_some] at hraw
  rw [hsettled, Option.map_some, Option.getD_some] at hrules
  rw [get?_finish, hrules, hraw]
  cases ruleAlong attr (h.lineage name) <;> rfl

theorem get?_freeze_of_isSteady {h : Hierarchy} {name attr : String} {rule : AttributeRule}
    (hnodup : ∀ node ∈ h.lineage name, node.rules.names.Nodup)
    (hrule : ruleAlong attr (h.lineage name) = some rule)
    (hsteady : IsSteady attr rule.isList (h.lineage name)) :
    ∃ type, h.freeze.get? name = some type ∧
      type.get? attr = some (rule.finish (gathered attr rule.isList (h.lineage name))) ∧
      h.get name attr = .ok (rule.finish (gathered attr rule.isList (h.lineage name))) := by
  have hfrozen : ∃ type, h.freeze.get? name = some type := by
    rw [get?_freeze]
    cases hline : h.lineage name with
    | nil =>
      rw [hline] at hrule
      cases hrule
    | cons node above => exact ⟨_, rfl⟩
  obtain ⟨type, htype⟩ := hfrozen
  refine ⟨type, htype, ?_, get_of_ruleAlong hrule⟩
  rw [get?_of_freeze hnodup htype, hrule, Option.map_some, hsteady.ofKind_eq]

end Hierarchy
end ReportFilters
