import Mathlib.Data.Option.Basic
import ReportFilters.Proofs.Chain.Identity

/-! Editing one filter of a chain. The nodes above it are copied and those below are shared, and what
comes of it is the chain with another filter in one place: no id and no other filter has changed, edits
in different places do not get into each other's way, and it makes no difference to them what is added
on top later. -/

namespace ReportFilters

namespace Links

def filter? (links : Links) (id : NodeId) : Option Filter :=
  (links.topFirst.find? fun link => link.id = id).bind Link.filter

structure Mirror (links : Links) (chain : Chain) : Prop where
  shown : links.Show chain
  filter? : links.filter? = chain.filter?

end Links

namespace Chain

theorem filter?_links (chain : Chain) : chain.links.filter? = chain.filter? := by
  obtain ⟨nodes⟩ := chain
  funext id
  rw [Links.filter?, links, filter?]
  induction nodes with
  | nil =>
    rw [List.map_nil, List.nil_append, List.find?_singleton]
    split <;> rfl
  | cons node below ih =>
    rw [List.map_cons, List.cons_append]
    by_cases h : node.id = id
    · rw [List.find?_cons_of_pos (by exact decide_eq_true h), List.find?_cons_of_pos (by exact decide_eq_true h)]
      rfl
    · have hneg := mt of_decide_eq_true h
      rw [List.find?_cons_of_neg (by exact hneg), List.find?_cons_of_neg (by exact hneg), ih]

theorem mirror_links (chain : Chain) : chain.links.Mirror chain := ⟨show_links chain, filter?_links chain⟩

section
variable {id : NodeId} {edit : Filter → Filter}

theorem updateIn_cons_of_eq {node : Node} (h : node.id = id) (below : List Node) :
    updateIn id edit (node :: below) = some ({ node with filter := edit node.filter } :: below) := if_pos h

theorem updateIn_cons_of_ne {node : Node} (h : node.id ≠ id) (below : List Node) :
    updateIn id edit (node :: below) = (updateIn id edit below).map (node :: ·) := if_neg h

theorem exists_of_updateIn {nodes copied : List Node} (h : updateIn id edit nodes = some copied) :
    ∃ above f below, nodes = above ++ ⟨id, f⟩ :: below ∧ (∀ node ∈ above, node.id ≠ id) ∧
      copied = above ++ ⟨id, edit f⟩ :: below := by
  induction nodes generalizing copied with
  | nil => cases h
  | cons node rest ih =>
    by_cases hid : node.id = id
    · rw [updateIn_cons_of_eq hid] at h
      cases h
      subst hid
      exact ⟨[], node.filter, rest, rfl, fun _ hnode => (nomatch hnode), rfl⟩
    · rw [updateIn_cons_of_ne hid] at h
      obtain ⟨more, hmore, rfl⟩ := Option.map_eq_some_iff.mp h
      obtain ⟨above, f, below, rfl, habove, rfl⟩ := ih hmore
      exact ⟨node :: above, f, below, rfl, List.forall_mem_cons.mpr ⟨hid, habove⟩, rfl⟩

theorem updateIn_eq_none_iff {nodes : List Node} :
    updateIn id edit nodes = none ↔ id ∉ nodes.map Node.id := by
  induction nodes with
  | nil => exact iff_of_true rfl List.not_mem_nil
  | cons node below ih =>
    rw [List.map_cons, List.mem_cons, not_or]
    by_cases hid : node.id = id
    · simp [updateIn_cons_of_eq hid, hid]
    · rw [updateIn_cons_of_ne hid, Option.map_eq_none_iff, ih, and_iff_right (Ne.symm hid)]

variable {other : NodeId} {otherEdit : Filter → Filter}

theorem updateIn_comm_of_top {node : Node} (hid : node.id = id) (h : other ≠ id) (below : List Node) :
    (updateIn id edit (node :: below)).bind (updateIn other otherEdit)
      = (updateIn other otherEdit (node :: below)).bind (updateIn id edit) := by
  have hother : node.id ≠ other := fun heq => h (heq.symm.trans hid)
  have hedited : updateIn id edit ∘ (node :: ·)
      = fun rest => some ({ node with filter := edit node.filter } :: rest) :=
    funext fun rest => updateIn_cons_of_eq hid rest
  rw [updateIn_cons_of_eq hid, Option.bind_some, updateIn_cons_of_ne (by exact hother),
    updateIn_cons_of_ne hother, Option.bind_map, hedited, Option.map_eq_bind]
  rfl

theorem updateIn_comm (h : other ≠ id) (nodes : List Node) :
    (updateIn id edit nodes).bind (updateIn other otherEdit)
      = (updateIn other otherEdit nodes).bind (updateIn id edit) := by
  induction nodes with
  | nil => rfl
  | cons node below ih =>
    by_cases hid : node.id = id
    · exact updateIn_comm_of_top hid h below
    by_cases hother : node.id = other
    · exact (updateIn_comm_of_top hother h.symm below).symm
    -- both edits are made further down
    have hnext : ∀ {id : NodeId} {edit : Filter → Filter}, node.id ≠ id →
        updateIn id edit ∘ (node :: ·) = Option.map (node :: ·) ∘ updateIn id edit :=
      fun hne => funext fun rest => updateIn_cons_of_ne hne rest
    rw [updateIn_cons_of_ne hid, updateIn_cons_of_ne hother, Option.bind_map, Option.bind_map, hnext hid,
      hnext hother, ← Option.map_bind, ← Option.map_bind, ih]

theorem updateFilter_comm (h : other ≠ id) (chain : Chain) :
    (chain.updateFilter id edit).bind (·.updateFilter other otherEdit)
      = (chain.updateFilter other otherEdit).bind (·.updateFilter id edit) := by
  have hbind : ∀ (first second : NodeId) (f g : Filter → Filter),
      (chain.updateFilter first f).bind (·.updateFilter second g)
        = ((updateIn first f chain.topFirst).bind (updateIn second g)).map Chain.mk := by
    intro first second f g
    rw [updateFilter, Option.bind_map, Option.map_bind]
    rfl
  rw [hbind, hbind, updateIn_comm h]

theorem updateFilter_prepend {fresh : NodeId} (h : fresh ≠ id) (chain : Chain) (f : Filter) :
    (chain.prepend fresh f).updateFilter id edit
      = (chain.updateFilter id edit).map (·.prepend fresh f) := by
  rw [updateFilter, prepend, updateIn_cons_of_ne h, updateFilter, Option.map_map, Option.map_map]
  rfl

theorem mem_nodeIds_iff {chain : Chain} :
    id ∈ chain.nodeIds ↔ id = .sentinel ∨ id ∈ chain.topFirst.map Node.id := by
  rw [nodeIds, List.mem_cons, List.mem_reverse]

theorem updateFilter_eq_none_iff {chain : Chain} (hnodup : chain.nodeIds.Nodup) :
    chain.updateFilter id edit = none ↔ id = .sentinel ∨ id ∉ chain.nodeIds := by
  have hsentinel : NodeId.sentinel ∉ chain.topFirst.map Node.id := by
    rw [← List.mem_reverse]
    exact (List.nodup_cons.mp hnodup).1
  rw [updateFilter, Option.map_eq_none_iff, updateIn_eq_none_iff, mem_nodeIds_iff, not_or]
  constructor
  · intro h
    by_cases hid : id = .sentinel
    · exact .inl hid
    · exact .inr ⟨hid, h⟩
  · rintro (rfl | ⟨_, h⟩)
    · exact hsentinel
    · exact h

structure EditedAt (chain : Chain) (id : NodeId) (edit : Filter → Filter) (updated : Chain) : Prop where
  nodeIds : updated.nodeIds = chain.nodeIds
  length : updated.length = chain.length
  filters : ∃ above f below, chain.filter? id = some f ∧ updated.filter? id = some (edit f) ∧
    chain.filters = above ++ f :: below ∧ updated.filters = above ++ edit f :: below ∧
    chain.position? id = some (below.length + 1)
  others : ∀ other, other ≠ id → updated.filter? other = chain.filter? other

theorem filter?_of_split {above below : List Node} (habove : ∀ node ∈ above, node.id ≠ id) (f : Filter) :
    (⟨above ++ ⟨id, f⟩ :: below⟩ : Chain).filter? id = some f := by
  have hnone : above.find? (fun node => node.id = id) = none :=
    List.find?_eq_none.mpr fun node hnode => by simpa using habove node hnode
  rw [filter?, List.find?_append, hnone, Option.none_or, List.find?_cons_of_pos (by exact decide_eq_true rfl)]
  rfl

theorem filter?_split_of_ne (h : other ≠ id) (above below : List Node) (f g : Filter) :
    (⟨above ++ ⟨id, f⟩ :: below⟩ : Chain).filter? other = (⟨above ++ ⟨id, g⟩ :: below⟩ : Chain).filter? other := by
  rw [filter?, filter?, List.find?_append, List.find?_append,
    List.find?_cons_of_neg (by simpa using h.symm), List.find?_cons_of_neg (by simpa using h.symm)]

theorem editedAt_of_updateFilter {chain updated : Chain} (hnodup : chain.nodeIds.Nodup)
    (h : chain.updateFilter id edit = some updated) : chain.EditedAt id edit updated := by
  have hids := nodeIds_updateFilter h
  have hlength : updated.length = chain.length := by
    have := congrArg List.length hids
    rwa [length_nodeIds, length_nodeIds, Nat.add_right_cancel_iff] at this
  obtain ⟨nodes⟩ := chain
  obtain ⟨copied, hcopied, rfl⟩ := Option.map_eq_some_iff.mp h
  obtain ⟨above, f, below, rfl, habove, rfl⟩ := exists_of_updateIn hcopied
  refine ⟨hids, hlength, ⟨above.map Node.filter, f, below.map Node.filter, filter?_of_split habove f,
    filter?_of_split habove _, ?_, ?_, ?_⟩, fun other hother => filter?_split_of_ne hother ..⟩
  · exact List.map_append
  · exact List.map_append
  · rw [position?_eq_some_iff hnodup]
    simp [Chain.nodeIds]

end

structure PointUpdate (chain : Chain) (id : NodeId) (edit : Filter → Filter) : Prop where
  none_iff : chain.updateFilter id edit = none ↔ id = .sentinel ∨ id ∉ chain.nodeIds
  edited : ∀ updated, chain.updateFilter id edit = some updated → chain.EditedAt id edit updated
  commutes : ∀ other otherEdit, other ≠ id →
    (chain.updateFilter id edit).bind (·.updateFilter other otherEdit)
      = (chain.updateFilter other otherEdit).bind (·.updateFilter id edit)
  /-- A filter that is added gets an id of its own, one before the edit and another after it. -/
  prepends : ∀ updated, chain.updateFilter id edit = some updated → ∀ f, ∀ before ∉ chain.nodeIds, ∀ after,
    ((chain.prepend before f).updateFilter id edit).map filters = some (updated.prepend after f).filters

theorem pointUpdate_of_nodup {chain : Chain} (hnodup : chain.nodeIds.Nodup) (id : NodeId)
    (edit : Filter → Filter) : chain.PointUpdate id edit := by
  refine ⟨updateFilter_eq_none_iff hnodup, fun updated => editedAt_of_updateFilter hnodup,
    fun other otherEdit hother => updateFilter_comm hother chain, ?_⟩
  intro updated hupdated f before hbefore after
  have hid : id ∈ chain.nodeIds := by
    by_contra hid
    rw [(updateFilter_eq_none_iff hnodup).mpr (.inr hid)] at hupdated
    cases hupdated
  have hne : before ≠ id := fun heq => hbefore (heq ▸ hid)
  rw [updateFilter_prepend hne, hupdated]
  rfl

/-- Of all chains that come about, an edit changes one filter in its place or, for the sentinel and for a
node of another chain, gives nothing. The links are rebuilt to the same effect. -/
theorem pointUpdate_of_obtained {next : NodeId} {chains : List (Chain × Links)} (h : Obtained next chains)
    {chain : Chain} {links : Links} (hchain : (chain, links) ∈ chains) (id : NodeId)
    (edit : Filter → Filter) : chain.PointUpdate id edit ∧ links.Mirror chain ∧
      Option.Rel Links.Mirror (links.updateFilter id edit) (chain.updateFilter id edit) := by
  have hincreasing := h.numbered.increasing chain (List.mem_map_of_mem hchain)
  have hlinks : links = chain.links := h.links_eq _ hchain
  rw [hlinks, links_updateFilter]
  refine ⟨pointUpdate_of_nodup (nodup_of_increasing hincreasing) id edit, mirror_links chain, ?_⟩
  cases chain.updateFilter id edit with
  | none => exact .none
  | some updated => exact .some (mirror_links updated)

theorem pointUpdate_editedBranch :
    Obtained ⟨4⟩ (branches.map fun chain => (chain, chain.links)) ∧ branch ⟨3⟩ ∈ branches ∧
      (branch ⟨3⟩).updateFilter .first (·.setValues [.int 7]) = some editedBranch ∧
      (branch ⟨3⟩).EditedAt .first (·.setValues [.int 7]) editedBranch ∧
      editedBranch.filters = [userFilter, userFilter.setValues [.int 7]] ∧
      (branch ⟨3⟩).updateFilter ⟨2⟩ (·.setValues [.int 7]) = none := by
  have hmem : branch ⟨3⟩ ∈ branches := List.mem_cons_of_mem _ (List.mem_cons_self ..)
  have hchain := List.mem_map_of_mem (f := fun chain => (chain, Chain.links chain)) hmem
  obtain ⟨hfirst, -⟩ := pointUpdate_of_obtained obtained_branches hchain .first (·.setValues [.int 7])
  obtain ⟨hsecond, -⟩ := pointUpdate_of_obtained obtained_branches hchain ⟨2⟩ (·.setValues [.int 7])
  exact ⟨obtained_branches, hmem, rfl, hfirst.edited _ rfl, rfl, hsecond.none_iff.mpr (.inr (by decide))⟩

end Chain
end ReportFilters
