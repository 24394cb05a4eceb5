import ReportFilters.Proofs.Hierarchy.Lineage
import ReportFilters.Proofs.Outcome
import ReportFilters.Proofs.Steps

/-! Hierarchies as callers have them, a single one that every call changes in place. A call finds out
whether it is to be refused before it changes anything, so a refused call leaves all as it was. However
calls follow each other, refused ones among them, names stay unique, and every type comes after its
parent. -/

namespace ReportFilters.Hierarchy
open SettledType

theorem exists_of_addType {h next : Hierarchy} {name : String} {parent : Option String}
    (hnext : h.addType name parent = .ok next) : h.contains name = false ∧
      (∀ p ∈ parent, h.contains p = true) ∧ next = ⟨{ name, parent } :: h.newestFirst⟩ := by
  unfold addType at hnext
  split at hnext
  · cases hnext
  next hfresh =>
    have hnew : h.contains name = false := by simpa using hfresh
    cases parent with
    | none =>
      cases hnext
      exact ⟨hnew, fun _ hp => (nomatch hp), rfl⟩
    | some p =>
      dsimp only at hnext
      split at hnext
      next hknown =>
        cases hnext
        exact ⟨hnew, fun q hq => Option.some.inj hq ▸ hknown, rfl⟩
      next => cases hnext

def withNode (h : Hierarchy) (name : String) (f : TypeNode → TypeNode) : Hierarchy :=
  ⟨h.newestFirst.map fun node => if node.name = name then f node else node⟩

theorem eq_withNode_of_updateNode {h next : Hierarchy} {name : String} {f : TypeNode → TypeNode}
    (hnext : h.updateNode name f = .ok next) : next = h.withNode name f := by
  rw [updateNode] at hnext
  split at hnext
  · exact (Except.ok.inj hnext).symm
  · cases hnext

inductive Write where
  | declare (rule : AttributeRule)
  | set (values : List AttributeValue)
  | stop

inductive Call where
  | addType (name : String) (parent : Option String)
  | write (name attr : String) (w : Write)

def Write.result (h : Hierarchy) (name attr : String) : Write → Except Error Hierarchy
  | declare rule => h.declare name attr rule
  | set values => h.set name attr values
  | stop => h.stop name attr

def Call.result (h : Hierarchy) : Call → Except Error Hierarchy
  | addType name parent => h.addType name parent
  | write name attr w => w.result h name attr

/-- Steps on one hierarchy. What was changed before a step failed stays changed. -/
abbrev Revision := EStateM Error Hierarchy

namespace Revision

def demand (holds : Hierarchy → Bool) (error : Error) : Revision Unit := fun h =>
  if holds h then .ok () h else .error error h

def look {α : Type} (f : Hierarchy → Except Error α) : Revision α := fun h =>
  match f h with
  | .ok a => .ok a h
  | .error error => .error error h

def changeNode (name : String) (f : TypeNode → TypeNode) : Revision Unit := do
  demand (·.contains name) (Error.unknownFilterType name)
  modify (·.withNode name f)

end Revision

section
open Revision

def Write.perform (name attr : String) : Write → Revision Unit
  | declare rule => changeNode name fun node => { node with rules := node.rules.put attr rule }
  | set values => do
    let rule ← look (·.rule name attr)
    let mapped := rule.mapped values
    demand (fun _ => rule.isList || mapped.length = 1) (Error.configuration ("scalar attribute \x60"
      ++ attr ++ "\x60 on \x60" ++ name ++ "\x60 takes one value, got " ++ toString mapped.length))
    changeNode name fun node =>
      { node with values := node.values.put attr (if rule.isList then held attr node ++ mapped else mapped) }
  | stop => changeNode name fun node => { node with stops := node.stops ++ [attr] }

def Call.perform : Call → Revision Unit
  | addType name parent => do
    demand (fun h => !h.contains name) (Error.duplicateFilterType name)
    match parent with
    | some p => demand (·.contains p) (Error.unknownParentType name p)
    | none => pure ()
    modify fun h => ⟨{ name, parent } :: h.newestFirst⟩
  | write name attr w => w.perform name attr

end

def ended (h : Hierarchy) : Except Error Hierarchy → EStateM.Result Error Hierarchy Unit
  | .ok next => .ok () next
  | .error error => .error error h

@[simp] theorem demand_apply (holds : Hierarchy → Bool) (error : Error) (h : Hierarchy) :
    Revision.demand holds error h = if holds h then .ok () h else .error error h := rfl

@[simp] theorem look_apply {α : Type} (f : Hierarchy → Except Error α) (h : Hierarchy) :
    Revision.look f h = match f h with
      | .ok a => .ok a h
      | .error error => .error error h := rfl

theorem changeNode_eq (h : Hierarchy) (name : String) (f : TypeNode → TypeNode) :
    Revision.changeNode name f h = h.ended (h.updateNode name f) := by
  rw [Revision.changeNode, bind_apply, demand_apply, updateNode]
  cases h.contains name <;> rfl

theorem Write.perform_eq (h : Hierarchy) (name attr : String) (w : Write) :
    w.perform name attr h = h.ended (w.result h name attr) := by
  cases w with
  | declare rule => exact h.changeNode_eq name _
  | stop => exact h.changeNode_eq name _
  | set values =>
    rw [perform, bind_apply, look_apply, Write.result, Hierarchy.set]
    cases h.rule name attr with
    | error error => rfl
    | ok rule =>
      rw [ok_bind]
      dsimp only
      rw [bind_apply, demand_apply]
      -- one asks what is amiss, the other what is to hold
      by_cases hfit : (!rule.isList && decide ((rule.mapped values).length ≠ 1)) = true
      · have hnot : (rule.isList || decide ((rule.mapped values).length = 1)) = false := by
          simpa using hfit
        rw [if_pos hfit, hnot]
        rfl
      · have hone : (rule.isList || decide ((rule.mapped values).length = 1)) = true := by
          simpa [or_iff_not_imp_left] using hfit
        rw [if_neg hfit, hone]
        exact h.changeNode_eq name _

theorem Call.perform_eq (h : Hierarchy) (call : Call) : call.perform h = h.ended (call.result h) := by
  cases call with
  | write name attr w => exact w.perform_eq h name attr
  | addType name parent =>
    rw [perform, bind_apply, demand_apply, Call.result]
    unfold Hierarchy.addType
    cases h.contains name with
    | true => rfl
    | false =>
      cases parent with
      | none => rfl
      | some p => cases hknown : h.contains p <;> simp [hknown, ended]

theorem Call.result_of_perform {h next : Hierarchy} {call : Call}
    (hrun : call.perform h = .ok () next) : call.result h = .ok next := by
  rw [perform_eq] at hrun
  cases hresult : call.result h with
  | error error =>
    rw [hresult] at hrun
    cases hrun
  | ok changed =>
    rw [hresult] at hrun
    cases hrun
    rfl

theorem Call.eq_of_perform_error {h left : Hierarchy} {call : Call} {error : Error}
    (hrun : call.perform h = .error error left) : left = h := by
  rw [perform_eq] at hrun
  cases hresult : call.result h with
  | error other =>
    rw [hresult] at hrun
    cases hrun
    rfl
  | ok next =>
    rw [hresult] at hrun
    cases hrun

def Call.after (h : Hierarchy) (call : Call) : Hierarchy :=
  match call.perform h with
  | .ok _ next => next
  | .error _ left => left

/-- By any calls, refused ones too, on an empty hierarchy or on a single type. -/
inductive Grown : Hierarchy → Prop
  | empty : Grown empty
  | ofRoot (name : String) (rules : List (String × AttributeRule))
    (values : List (String × List AttributeValue)) : Grown (ofRoot name rules values)
  | call {h : Hierarchy} (hh : Grown h) (call : Call) : Grown (call.after h)

def afterAll (h : Hierarchy) (calls : List Call) : Hierarchy := calls.foldl Call.after h

theorem Grown.calls {h : Hierarchy} (hh : Grown h) (calls : List Call) : Grown (h.afterAll calls) := by
  induction calls generalizing h with
  | nil => exact hh
  | cons call rest ih => exact ih (hh.call call)

theorem Call.after_eq (h : Hierarchy) (call : Call) :
    call.after h = match call.result h with
      | .ok next => next
      | .error _ => h := by
  rw [after, perform_eq]
  cases call.result h <;> rfl

theorem Grown.of_result {h next : Hierarchy} (hh : Grown h) (call : Call)
    (hnext : call.result h = .ok next) : Grown next := by
  have hafter := hh.call call
  rwa [Call.after_eq, hnext] at hafter

/-! One node is changed in one attribute. -/

structure Touches (attr : String) (node changed : TypeNode) : Prop where
  name : changed.name = node.name
  parent : changed.parent = node.parent
  rules : ∀ other, other ≠ attr → changed.rules.get? other = node.rules.get? other
  held : ∀ other, other ≠ attr → held other changed = held other node
  stops : ∀ other, other ≠ attr → changed.stops.contains other = node.stops.contains other
  rules_nodup : node.rules.names.Nodup → changed.rules.names.Nodup
  isRuled : (node.rules.get? attr).isSome → (changed.rules.get? attr).isSome

theorem Touches.refl (attr : String) (node : TypeNode) : Touches attr node node :=
  ⟨rfl, rfl, fun _ _ => rfl, fun _ _ => rfl, fun _ _ => rfl, id, id⟩

theorem Touches.isRuled_of {attr : String} {node changed : TypeNode} (h : Touches attr node changed)
    {other : String} (hrule : (node.rules.get? other).isSome) : (changed.rules.get? other).isSome := by
  by_cases hother : other = attr
  · subst hother
    exact h.isRuled hrule
  · rwa [h.rules other hother]

theorem nodup_names_put {α : Type} {d : Dictionary α} (h : d.names.Nodup) (name : String) (a : α) :
    (d.put name a).names.Nodup := by
  rw [Dictionary.names_put]
  split
  · exact h
  next hnew =>
    refine List.nodup_append.mpr ⟨h, List.nodup_singleton _, ?_⟩
    rintro other hother _ hlast rfl
    exact hnew (List.mem_singleton.mp hlast ▸ hother)

theorem touches_declare (attr : String) (rule : AttributeRule) (node : TypeNode) :
    Touches attr node { node with rules := node.rules.put attr rule } where
  name := rfl
  parent := rfl
  rules other hother := by rw [Dictionary.get?_put, if_neg hother]
  held _ _ := rfl
  stops _ _ := rfl
  rules_nodup hnodup := nodup_names_put hnodup attr rule
  isRuled _ := by rw [Dictionary.get?_put, if_pos rfl, Option.isSome_some]

theorem touches_set (attr : String) (values : List AttributeValue) (node : TypeNode) :
    Touches attr node { node with values := node.values.put attr values } where
  name := rfl
  parent := rfl
  rules _ _ := rfl
  held other hother := by rw [Hierarchy.held, Hierarchy.held, Dictionary.get?_put, if_neg hother]
  stops _ _ := rfl
  rules_nodup := id
  isRuled := id

theorem touches_stop (attr : String) (node : TypeNode) :
    Touches attr node { node with stops := node.stops ++ [attr] } where
  name := rfl
  parent := rfl
  rules _ _ := rfl
  held _ _ := rfl
  stops other hother := by simp [hother]
  rules_nodup := id
  isRuled := id

/-- A write changes the node of its type in its attribute, and no other. Only a type that sees the attribute
is given values of it. -/
theorem Write.exists_touches {h next : Hierarchy} {name attr : String} {w : Write}
    (hnext : w.result h name attr = .ok next) :
    ∃ f, (∀ node, Touches attr node (f node)) ∧
      ((∀ node, held attr (f node) = held attr node) ∨ (ruleAlong attr (h.lineage name)).isSome) ∧
      next = h.withNode name f := by
  cases w with
  | declare rule =>
    exact ⟨_, touches_declare attr rule, .inl fun _ => rfl, eq_withNode_of_updateNode hnext⟩
  | stop => exact ⟨_, touches_stop attr, .inl fun _ => rfl, eq_withNode_of_updateNode hnext⟩
  | set values =>
    obtain ⟨rule, hrule, hnext⟩ := exists_of_bind_eq_ok hnext
    dsimp only at hnext
    split at hnext
    · cases hnext
    · refine ⟨_, fun node => touches_set attr _ node, .inr ?_, eq_withNode_of_updateNode hnext⟩
      rw [ruleAlong_of_rule hrule, Option.isSome_some]

/-! Parents come first. -/

inductive ParentsFirst : List TypeNode → Prop
  | nil : ParentsFirst []
  | cons {node : TypeNode} {older : List TypeNode}
    (hparent : ∀ parent ∈ node.parent, parent ∈ older.map TypeNode.name)
    (holder : ParentsFirst older) : ParentsFirst (node :: older)

structure Ordered (h : Hierarchy) : Prop where
  names_nodup : (h.newestFirst.map TypeNode.name).Nodup
  rules_nodup : ∀ node ∈ h.newestFirst, node.rules.names.Nodup
  parentsFirst : ParentsFirst h.newestFirst

theorem map_name_map {g : TypeNode → TypeNode} (hname : ∀ node, (g node).name = node.name)
    (nodes : List TypeNode) : (nodes.map g).map TypeNode.name = nodes.map TypeNode.name := by
  rw [List.map_map]
  exact List.map_congr_left fun node _ => hname node

theorem ParentsFirst.map {nodes : List TypeNode} (h : ParentsFirst nodes) {g : TypeNode → TypeNode}
    (hname : ∀ node, (g node).name = node.name) (hparent : ∀ node, (g node).parent = node.parent) :
    ParentsFirst (nodes.map g) := by
  induction h with
  | nil => exact .nil
  | cons hknown _ ih =>
    refine .cons ?_ ih
    rw [hparent, map_name_map hname]
    exact hknown

theorem touches_withNode {attr : String} {f : TypeNode → TypeNode}
    (hf : ∀ node, Touches attr node (f node)) (name : String) (node : TypeNode) :
    Touches attr node (if node.name = name then f node else node) := by
  split
  · exact hf node
  · exact .refl attr node

theorem lineage_withNode {attr : String} {f : TypeNode → TypeNode}
    (hf : ∀ node, Touches attr node (f node)) (h : Hierarchy) (name type : String) :
    (h.withNode name f).lineage type
      = (h.lineage type).map fun node => if node.name = name then f node else node := by
  have hg := touches_withNode hf name
  exact lineageIn_map (fun node => (hg node).name) (fun node => (hg node).parent) h.newestFirst type

theorem Ordered.withNode {h : Hierarchy} (hh : h.Ordered) {attr : String} {f : TypeNode → TypeNode}
    (hf : ∀ node, Touches attr node (f node)) (name : String) : (h.withNode name f).Ordered := by
  have hg := touches_withNode hf name
  have hname := fun node => (hg node).name
  refine ⟨?_, ?_, hh.parentsFirst.map hname fun node => (hg node).parent⟩
  · rw [Hierarchy.withNode, map_name_map hname]
    exact hh.names_nodup
  · intro changed hchanged
    obtain ⟨node, hnode, rfl⟩ := List.mem_map.mp hchanged
    exact (hg node).rules_nodup (hh.rules_nodup node hnode)

theorem Ordered.addType {h next : Hierarchy} (hh : h.Ordered) {name : String}
    {parent : Option String} (hnext : h.addType name parent = .ok next) : next.Ordered := by
  obtain ⟨hfresh, hparent, rfl⟩ := exists_of_addType hnext
  refine ⟨List.nodup_cons.mpr ⟨?_, hh.names_nodup⟩, ?_, .cons ?_ hh.parentsFirst⟩
  · rw [← contains_iff_mem, hfresh]
    exact Bool.false_ne_true
  · exact List.forall_mem_cons.mpr ⟨List.nodup_nil, hh.rules_nodup⟩
  · exact fun p hp => (contains_iff_mem h p).mp (hparent p hp)

theorem Ordered.after {h : Hierarchy} (hh : h.Ordered) (call : Call) : (call.after h).Ordered := by
  rw [Call.after_eq]
  cases hnext : call.result h with
  | error error => exact hh
  | ok next =>
    cases call with
    | addType name parent => exact hh.addType hnext
    | write name attr w =>
      obtain ⟨f, hf, -, rfl⟩ := w.exists_touches hnext
      exact hh.withNode hf name

theorem ordered_ofRoot (name : String) (rules : List (String × AttributeRule))
    (values : List (String × List AttributeValue)) : (ofRoot name rules values).Ordered := by
  refine ⟨List.nodup_singleton _, ?_, .cons (fun _ hp => (nomatch hp)) .nil⟩
  have hrules : ∀ d : Dictionary AttributeRule, d.names.Nodup →
      (rules.foldl (fun d entry => Dictionary.put d entry.1 entry.2) d).names.Nodup := by
    induction rules with
    | nil => exact fun _ hd => hd
    | cons entry rest ih => exact fun d hd => ih _ (nodup_names_put hd entry.1 entry.2)
  intro node hnode
  rw [List.mem_singleton.mp hnode]
  exact hrules [] List.nodup_nil

theorem Grown.ordered {h : Hierarchy} (hh : Grown h) : h.Ordered := by
  induction hh with
  | empty => exact ⟨List.nodup_nil, fun _ hn => (nomatch hn), .nil⟩
  | ofRoot name rules values => exact ordered_ofRoot name rules values
  | call _ call ih => exact ih.after call

end ReportFilters.Hierarchy
