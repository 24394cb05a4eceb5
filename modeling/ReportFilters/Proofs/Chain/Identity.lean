import ReportFilters.Proofs.Chain.Links
import ReportFilters.Proofs.FirstOccurrence

/-! Node ids of chains that branch. All nodes take their ids from one counter, and an update copies the
nodes from its filter up with their ids, so that one id may stand in many chains. In each of them it
stands at the same height, above the same ids. -/

namespace ReportFilters.Chain

/-- Chains as they come about from the empty one, each beside the links it is made of, with the id that
the next node gets. -/
inductive Obtained : NodeId → List (Chain × Links) → Prop
  | start : Obtained .first [(empty, .empty)]
  | create {next : NodeId} {chains : List (Chain × Links)} (h : Obtained next chains) :
    Obtained next ((empty, .empty) :: chains)
  | prepend {next : NodeId} {chains : List (Chain × Links)} (h : Obtained next chains) {chain : Chain}
    {links : Links} (hchain : (chain, links) ∈ chains) (filter : Filter) :
    Obtained next.next ((chain.prepend next filter, links.prepend next filter) :: chains)
  | update {next : NodeId} {chains : List (Chain × Links)} (h : Obtained next chains)
    {chain updated : Chain} {links relinked : Links} (hchain : (chain, links) ∈ chains) {id : NodeId}
    {edit : Filter → Filter} (hupdated : chain.updateFilter id edit = some updated)
    (hrelinked : links.updateFilter id edit = some relinked) : Obtained next ((updated, relinked) :: chains)
  | clone {next : NodeId} {chains : List (Chain × Links)} (h : Obtained next chains)
    {copied : Chain × Links} (hcopied : copied ∈ chains) : Obtained next (copied :: chains)
  /-- A node of a chain that is none of these. -/
  | elsewhere {next : NodeId} {chains : List (Chain × Links)} (h : Obtained next chains) :
    Obtained next.next chains

def idsBelow (chain : Chain) (id : NodeId) : List NodeId := chain.nodeIds.takeWhile fun other => other ≠ id

theorem takeWhile_append_of_mem [DecidableEq α] {a : α} {l : List α} (h : a ∈ l) (more : List α) :
    ((l ++ more).takeWhile fun b => b ≠ a) = l.takeWhile fun b => b ≠ a := by
  induction l with
  | nil => cases h
  | cons b rest ih =>
    by_cases heq : b = a
    · simp [heq]
    · have hrest := (List.mem_cons.mp h).resolve_left (Ne.symm heq)
      simpa [heq] using ih hrest

theorem getElem?_takeWhile_length [DecidableEq α] {a : α} {l : List α} (h : a ∈ l) :
    l[(l.takeWhile fun b => b ≠ a).length]? = some a := by
  induction l with
  | nil => cases h
  | cons b rest ih =>
    by_cases heq : b = a
    · simp [heq]
    · have hrest := (List.mem_cons.mp h).resolve_left (Ne.symm heq)
      simpa [heq] using ih hrest

theorem nodeIds_prepend (chain : Chain) (id : NodeId) (filter : Filter) :
    (chain.prepend id filter).nodeIds = chain.nodeIds ++ [id] := by
  simp [nodeIds, prepend]

theorem nodeIds_updateFilter {chain updated : Chain} {id : NodeId} {edit : Filter → Filter}
    (h : chain.updateFilter id edit = some updated) : updated.nodeIds = chain.nodeIds := by
  obtain ⟨nodes⟩ := chain
  obtain ⟨copied, hcopied, rfl⟩ := Option.map_eq_some_iff.mp h
  rw [nodeIds, nodeIds, map_id_updateIn hcopied]

structure Numbered (next : NodeId) (chains : List Chain) : Prop where
  used : ∀ chain ∈ chains, ∀ id ∈ chain.nodeIds, id.index < next.index
  increasing : ∀ chain ∈ chains, chain.nodeIds.Pairwise fun lower upper => lower.index < upper.index
  shared : ∀ chain ∈ chains, ∀ other ∈ chains, ∀ id ∈ chain.nodeIds, id ∈ other.nodeIds →
    chain.idsBelow id = other.idsBelow id

section
variable {next : NodeId} {chains : List Chain}

theorem numbered_start : Numbered .first [empty] := by
  refine ⟨?_, ?_, ?_⟩
  · decide +kernel
  · decide
  · intro chain hchain other hother _ _ _
    rw [List.mem_singleton.mp hchain, List.mem_singleton.mp hother]

theorem Numbered.later (h : Numbered next chains) : Numbered next.next chains :=
  ⟨fun chain hchain id hid => Nat.lt_succ_of_lt (h.used chain hchain id hid), h.increasing,
    h.shared⟩

theorem Numbered.cons (h : Numbered next chains) {chain : Chain}
    (hused : ∀ id ∈ chain.nodeIds, id.index < next.index)
    (hincreasing : chain.nodeIds.Pairwise fun lower upper => lower.index < upper.index)
    (hshared : ∀ other ∈ chains, ∀ id ∈ chain.nodeIds, id ∈ other.nodeIds →
      chain.idsBelow id = other.idsBelow id) : Numbered next (chain :: chains) := by
  refine ⟨List.forall_mem_cons.mpr ⟨hused, h.used⟩, List.forall_mem_cons.mpr ⟨hincreasing, h.increasing⟩,
    List.forall_mem_cons.mpr ⟨List.forall_mem_cons.mpr ⟨fun _ _ _ => rfl, hshared⟩, ?_⟩⟩
  intro other hother
  refine List.forall_mem_cons.mpr ⟨?_, h.shared other hother⟩
  exact fun id hid hid' => (hshared other hother id hid' hid).symm

theorem Numbered.copy (h : Numbered next chains) {chain copied : Chain} (hchain : chain ∈ chains)
    (hids : copied.nodeIds = chain.nodeIds) : Numbered next (copied :: chains) := by
  have hbelow : copied.idsBelow = chain.idsBelow := by
    funext id
    rw [idsBelow, idsBelow, hids]
  refine h.cons ?_ ?_ ?_
  · rw [hids]
    exact h.used chain hchain
  · rw [hids]
    exact h.increasing chain hchain
  · rw [hids, hbelow]
    exact h.shared chain hchain

theorem Numbered.prepend (h : Numbered next chains) {chain : Chain} (hchain : chain ∈ chains)
    (filter : Filter) : Numbered next.next (chain.prepend next filter :: chains) := by
  have hused := h.used chain hchain
  have hfresh : ∀ other ∈ chains, next ∉ other.nodeIds := fun other hother hnext =>
    Nat.lt_irrefl _ (h.used other hother next hnext)
  refine h.later.cons ?_ ?_ ?_
  · rw [nodeIds_prepend]
    refine List.forall_mem_append.mpr ⟨h.later.used chain hchain, ?_⟩
    exact List.forall_mem_singleton.mpr (Nat.lt_succ_self _)
  · rw [nodeIds_prepend, List.pairwise_append]
    refine ⟨h.increasing chain hchain, List.pairwise_singleton _ _, ?_⟩
    intro id hid other hother
    rw [List.mem_singleton.mp hother]
    exact hused id hid
  · intro other hother id hid hid'
    rw [nodeIds_prepend, List.mem_append, List.mem_singleton] at hid
    have hid := hid.resolve_right fun heq => hfresh other hother (heq ▸ hid')
    rw [← h.shared chain hchain other hother id hid hid', idsBelow, nodeIds_prepend]
    exact takeWhile_append_of_mem hid _

end

section
variable {next : NodeId} {chains : List (Chain × Links)}

theorem Obtained.links_eq (h : Obtained next chains) : ∀ obtained ∈ chains, obtained.2 = obtained.1.links := by
  induction h with
  | start =>
    intro obtained hobtained
    rw [List.mem_singleton.mp hobtained]
    rfl
  | create _ ih => exact List.forall_mem_cons.mpr ⟨rfl, ih⟩
  | @prepend _ _ _ chain links hchain filter ih =>
    have hlinks : links = chain.links := ih _ hchain
    refine List.forall_mem_cons.mpr ⟨?_, ih⟩
    rw [hlinks]
    rfl
  | @update _ _ _ chain updated links relinked hchain id edit hupdated hrelinked ih =>
    have hlinks : links = chain.links := ih _ hchain
    rw [hlinks, links_updateFilter, hupdated] at hrelinked
    exact List.forall_mem_cons.mpr ⟨(Option.some.inj hrelinked).symm, ih⟩
  | clone _ hcopied ih => exact List.forall_mem_cons.mpr ⟨ih _ hcopied, ih⟩
  | elsewhere _ ih => exact ih

theorem Obtained.empty_mem (h : Obtained next chains) : empty ∈ chains.map Prod.fst := by
  induction h with
  | start => exact List.mem_singleton_self _
  | elsewhere _ ih => exact ih
  | create _ ih | prepend _ _ _ ih | update _ _ _ _ ih | clone _ _ ih => exact List.mem_cons_of_mem _ ih

theorem Obtained.numbered (h : Obtained next chains) : Numbered next (chains.map Prod.fst) := by
  have hmem : ∀ {chains : List (Chain × Links)} {chain links}, (chain, links) ∈ chains →
      chain ∈ chains.map Prod.fst := fun hchain => List.mem_map_of_mem hchain
  induction h with
  | start => exact numbered_start
  | create h ih => exact ih.copy h.empty_mem rfl
  | prepend _ hchain filter ih => exact ih.prepend (hmem hchain) filter
  | update _ hchain hupdated _ ih => exact ih.copy (hmem hchain) (nodeIds_updateFilter hupdated)
  | clone _ hcopied ih => exact ih.copy (List.mem_map_of_mem hcopied) rfl
  | elsewhere _ ih => exact ih.later

end

structure Identified (chain : Chain) : Prop where
  first : chain.nodeIds.head? = some .sentinel
  once : NodeId.sentinel ∉ chain.nodeIds.tail
  increasing : chain.nodeIds.Pairwise fun lower upper => lower.index < upper.index
  length : chain.nodeIds.length = chain.length + 1
  bottom : chain.bottom = .sentinel
  top : chain.nodeIds.getLast? = some chain.top
  responsible : chain.responsible = chain.top
  top_iff : chain.top = .sentinel ↔ chain.length = 0
  position_iff : ∀ id height, chain.position? id = some height ↔ chain.nodeIds[height]? = some id
  /-- A height is got by subtraction from the length, which never comes below zero. -/
  within : ∀ id fromTop, chain.nodeIds.reverse.findIdx? (· = id) = some fromTop → fromTop ≤ chain.length
  filters_length : chain.filters.length = chain.length
  filters : chain.nodeIds.tail.reverse.map chain.filter? = chain.filters.map some

theorem reverse_nodeIds (chain : Chain) :
    chain.nodeIds.reverse = chain.topFirst.map Node.id ++ [.sentinel] := by
  rw [nodeIds, List.reverse_cons, List.reverse_reverse]

theorem length_nodeIds (chain : Chain) : chain.nodeIds.length = chain.length + 1 := by
  simp [nodeIds, length]

theorem getLast?_nodeIds (chain : Chain) : chain.nodeIds.getLast? = some chain.top := by
  rw [← List.head?_reverse, reverse_nodeIds, top]
  cases chain.topFirst <;> rfl

theorem position?_eq (chain : Chain) (id : NodeId) :
    chain.position? id
      = (chain.nodeIds.reverse.findIdx? (· = id)).map fun fromTop => chain.length - fromTop := by
  rw [reverse_nodeIds, position?]

theorem le_length_of_findIdx? {chain : Chain} {id : NodeId} {fromTop : Nat}
    (h : chain.nodeIds.reverse.findIdx? (· = id) = some fromTop) : fromTop ≤ chain.length := by
  obtain ⟨hlt, -⟩ := List.findIdx?_eq_some_iff_getElem.mp h
  rw [List.length_reverse, length_nodeIds] at hlt
  omega

theorem position?_eq_some_iff {chain : Chain} (hnodup : chain.nodeIds.Nodup) (id : NodeId)
    (height : Nat) : chain.position? id = some height ↔ chain.nodeIds[height]? = some id := by
  have hlength := length_nodeIds chain
  have hback : ∀ fromTop ≤ chain.length,
      chain.nodeIds.reverse[fromTop]? = chain.nodeIds[chain.length - fromTop]? := by
    intro fromTop hle
    rw [List.getElem?_reverse (by omega), hlength, Nat.add_sub_cancel]
  rw [position?_eq, Option.map_eq_some_iff]
  constructor
  · rintro ⟨fromTop, hfound, rfl⟩
    obtain ⟨hlt, hid, -⟩ := List.findIdx?_eq_some_iff_getElem.mp hfound
    rw [← hback fromTop (le_length_of_findIdx? hfound), List.getElem?_eq_getElem hlt,
      of_decide_eq_true hid]
  · intro hheight
    obtain ⟨hlt, hid⟩ := List.getElem?_eq_some_iff.mp hheight
    refine ⟨chain.length - height, ?_, by omega⟩
    have hfound : chain.nodeIds.reverse[chain.length - height]? = some id := by
      rw [hback _ (Nat.sub_le _ _), Nat.sub_sub_self (by omega), hheight]
    obtain ⟨hlt', hid'⟩ := List.getElem?_eq_some_iff.mp hfound
    refine List.findIdx?_eq_some_iff_getElem.mpr ⟨hlt', decide_eq_true hid', ?_⟩
    -- nor is there a link with this id further up
    intro other hother hsame
    have hinj := (List.nodup_reverse.mpr hnodup).getElem_inj_iff.mp
      ((of_decide_eq_true hsame).trans hid'.symm)
    omega

theorem map_filter?_nodeIds {chain : Chain} (hnodup : chain.nodeIds.Nodup) :
    chain.nodeIds.tail.reverse.map chain.filter? = chain.filters.map some := by
  have hids : (chain.topFirst.map Node.id).Nodup := by
    rw [← List.nodup_reverse]
    exact (List.nodup_cons.mp hnodup).2
  rw [nodeIds, List.tail_cons, List.reverse_reverse, filters, List.map_map, List.map_map]
  refine List.map_congr_left fun node hnode => ?_
  rw [Function.comp_apply, filter?, find?_key_of_mem hids hnode]
  rfl

theorem position?_eq_length {chain : Chain} (hnodup : chain.nodeIds.Nodup) {id : NodeId}
    (h : id ∈ chain.nodeIds) : chain.position? id = some (chain.idsBelow id).length :=
  (position?_eq_some_iff hnodup id _).mpr (getElem?_takeWhile_length h)

theorem nodup_of_increasing {ids : List NodeId}
    (h : ids.Pairwise fun lower upper => lower.index < upper.index) : ids.Nodup :=
  h.imp fun hlt heq => Nat.ne_of_lt hlt (congrArg NodeId.index heq)

theorem top_eq_sentinel_iff {chain : Chain} (hnodup : chain.nodeIds.Nodup) :
    chain.top = .sentinel ↔ chain.length = 0 := by
  obtain ⟨nodes⟩ := chain
  cases nodes with
  | nil => exact iff_of_true rfl rfl
  | cons node below =>
    refine iff_of_false ?_ (Nat.succ_ne_zero _)
    intro htop
    have hmem : node.id ∈ (((node :: below).map Node.id).reverse) := by simp
    exact (List.nodup_cons.mp hnodup).1 (htop ▸ hmem)

theorem identified_of_increasing {chain : Chain}
    (h : chain.nodeIds.Pairwise fun lower upper => lower.index < upper.index) : chain.Identified := by
  have hnodup := nodup_of_increasing h
  exact ⟨rfl, (List.nodup_cons.mp hnodup).1, h, length_nodeIds chain, rfl, getLast?_nodeIds chain, rfl,
    top_eq_sentinel_iff hnodup, position?_eq_some_iff hnodup, fun _ _ => le_length_of_findIdx?,
    List.length_map _, map_filter?_nodeIds hnodup⟩

/-- In every chain that comes about, the ids are as they should be, and its links say the same with the
number they keep. An id that stands in two of these chains stands in both at the same height and above
the same ids. -/
theorem identified_of_obtained {next : NodeId} {chains : List (Chain × Links)} (h : Obtained next chains) :
    (∀ chain links, (chain, links) ∈ chains → chain.Identified ∧ links.Show chain) ∧
    ∀ chain ∈ chains.map Prod.fst, ∀ other ∈ chains.map Prod.fst, ∀ id ∈ chain.nodeIds,
      id ∈ other.nodeIds →
        chain.position? id = other.position? id ∧ chain.idsBelow id = other.idsBelow id := by
  have hn := h.numbered
  constructor
  · intro chain links hchain
    refine ⟨identified_of_increasing (hn.increasing chain (List.mem_map_of_mem hchain)), ?_⟩
    rw [show links = chain.links from h.links_eq _ hchain]
    exact show_links chain
  · intro chain hchain other hother id hid hid'
    have hbelow := hn.shared chain hchain other hother id hid hid'
    have hnodup := nodup_of_increasing (hn.increasing chain hchain)
    have hnodup' := nodup_of_increasing (hn.increasing other hother)
    exact ⟨by rw [position?_eq_length hnodup hid, position?_eq_length hnodup' hid', hbelow], hbelow⟩

def userFilter : Filter where
  type := ⟨"user_id", none, "entries.user_id", [], [], none, false, true, false⟩
  default := .builtin .equal

def branch (id : NodeId) : Chain := (empty.prepend .first userFilter).prepend id userFilter

def editedBranch : Chain := ⟨[⟨⟨3⟩, userFilter⟩, ⟨.first, userFilter.setValues [.int 7]⟩]⟩

def branches : List Chain :=
  [editedBranch, branch ⟨3⟩, branch ⟨2⟩, empty.prepend .first userFilter, empty]

theorem obtained_branches : Obtained ⟨4⟩ (branches.map fun chain => (chain, chain.links)) := by
  have hbase := Obtained.prepend .start (List.mem_singleton_self _) userFilter
  have hleft := hbase.prepend (List.mem_cons_self ..) userFilter
  have hright := hleft.prepend (List.mem_cons_of_mem _ (List.mem_cons_self ..)) userFilter
  exact @Obtained.update _ _ hright _ _ _ _ (List.mem_cons_self ..) .first (·.setValues [.int 7]) rfl rfl

theorem identified_branches :
    Obtained ⟨4⟩ (branches.map fun chain => (chain, chain.links)) ∧
      editedBranch.Identified ∧ editedBranch.nodeIds = [.sentinel, .first, ⟨3⟩] ∧
      editedBranch.links.Show editedBranch ∧ editedBranch.links.count = 2 ∧
      editedBranch.position? .first = (branch ⟨2⟩).position? .first ∧
      editedBranch.idsBelow .first = (branch ⟨2⟩).idsBelow .first := by
  obtain ⟨hidentified, hshared⟩ := identified_of_obtained obtained_branches
  obtain ⟨hedited, hshow⟩ := hidentified editedBranch editedBranch.links (List.mem_cons_self ..)
  have hbranch : branch ⟨2⟩ ∈ (branches.map fun chain => (chain, chain.links)).map Prod.fst :=
    List.mem_cons_of_mem _ (List.mem_cons_of_mem _ (List.mem_cons_self ..))
  exact ⟨obtained_branches, hedited, rfl, hshow, rfl,
    hshared _ (List.mem_cons_self ..) _ hbranch .first (by decide) (by decide)⟩

end ReportFilters.Chain
