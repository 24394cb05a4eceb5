import ReportFilters.Chain

/-! Chains as links, the sentinel among them, with the number of filters kept beside. The number is
counted up when a filter is added and taken over when one is edited, and heights are reckoned from it;
ids and filters are read off the links. The links say what the chain says. -/

namespace ReportFilters

/-- The sentinel is the link without a filter. -/
structure Link where
  id : NodeId
  filter : Option Filter

structure Links where
  topFirst : List Link
  count : Nat

namespace Links

def empty : Links := ⟨[⟨.sentinel, none⟩], 0⟩

def prepend (links : Links) (id : NodeId) (filter : Filter) : Links :=
  ⟨⟨id, some filter⟩ :: links.topFirst, links.count + 1⟩

/-- The links with one filter edited, when those above are taken off. They are linked anew, the nearest
first; the links below are shared. -/
def relink? (id : NodeId) (edit : Filter → Filter) (above : List Link) : List Link → Option (List Link)
  | [] => none
  | link :: below =>
    if link.id = id then
      link.filter.map fun filter =>
        above.foldl (fun lower upper => upper :: lower) (⟨id, some (edit filter)⟩ :: below)
    else relink? id edit (link :: above) below

def updateFilter (links : Links) (id : NodeId) (edit : Filter → Filter) : Option Links :=
  (relink? id edit [] links.topFirst).map fun topFirst => ⟨topFirst, links.count⟩

def nodeIds (links : Links) : List NodeId := (links.topFirst.map Link.id).reverse

def top (links : Links) : NodeId := (links.topFirst.head?.map Link.id).getD .sentinel

def bottom (links : Links) : NodeId := (links.topFirst.getLast?.map Link.id).getD .sentinel

def position? (links : Links) (id : NodeId) : Option Nat :=
  (links.topFirst.findIdx? fun link => link.id = id).map fun fromTop => links.count - fromTop

def filters (links : Links) : List Filter := links.topFirst.filterMap Link.filter

structure Show (links : Links) (chain : Chain) : Prop where
  nodeIds : links.nodeIds = chain.nodeIds
  count : links.count = chain.length
  top : links.top = chain.top
  bottom : links.bottom = chain.bottom
  position? : links.position? = chain.position?
  filters : links.filters = chain.filters
  updates : ∀ id edit, (links.updateFilter id edit).isSome = (chain.updateFilter id edit).isSome

end Links

def Node.link (node : Node) : Link := ⟨node.id, some node.filter⟩

namespace Chain

def links (chain : Chain) : Links := ⟨chain.topFirst.map Node.link ++ [⟨.sentinel, none⟩], chain.length⟩

theorem map_id_links (chain : Chain) :
    chain.links.topFirst.map Link.id = chain.topFirst.map Node.id ++ [.sentinel] := by
  rw [links, List.map_append, List.map_map]
  rfl

theorem relink?_links (id : NodeId) (edit : Filter → Filter) (above : List Link) (nodes : List Node) :
    Links.relink? id edit above (nodes.map Node.link ++ [⟨.sentinel, none⟩])
      = (updateIn id edit nodes).map fun copied =>
        above.foldl (fun lower upper => upper :: lower) (copied.map Node.link ++ [⟨.sentinel, none⟩]) := by
  induction nodes generalizing above with
  | nil =>
    rw [List.map_nil, List.nil_append, Links.relink?]
    split <;> rfl
  | cons node below ih =>
    rw [List.map_cons, List.cons_append, Links.relink?, updateIn, Node.link]
    by_cases hid : node.id = id
    · rw [if_pos hid, if_pos hid, ← hid]
      rfl
    · rw [if_neg hid, if_neg hid, ih, Option.map_map]
      rfl

theorem map_id_updateIn {id : NodeId} {edit : Filter → Filter} {nodes copied : List Node}
    (h : updateIn id edit nodes = some copied) : copied.map Node.id = nodes.map Node.id := by
  induction nodes generalizing copied with
  | nil => cases h
  | cons node below ih =>
    rw [updateIn] at h
    split at h
    · cases h
      rfl
    · obtain ⟨rest, hrest, rfl⟩ := Option.map_eq_some_iff.mp h
      rw [List.map_cons, List.map_cons, ih hrest]

theorem links_updateFilter (chain : Chain) (id : NodeId) (edit : Filter → Filter) :
    chain.links.updateFilter id edit = (chain.updateFilter id edit).map links := by
  rw [Links.updateFilter, links, relink?_links, updateFilter, Option.map_map, Option.map_map]
  refine Option.map_congr fun copied hcopied => ?_
  have hlength : copied.length = chain.topFirst.length := by
    simpa using congrArg List.length (map_id_updateIn hcopied)
  -- the count that is taken over is that of the copied nodes
  rw [Function.comp_apply, Function.comp_apply, links, length, length, hlength]
  rfl

theorem show_links (chain : Chain) : chain.links.Show chain := by
  refine ⟨?_, rfl, ?_, ?_, ?_, ?_, ?_⟩
  · rw [Links.nodeIds, map_id_links, List.reverse_append]
    rfl
  · rw [Links.top, ← List.head?_map, map_id_links, top, ← List.head?_map]
    cases chain.topFirst <;> rfl
  · rw [Links.bottom, ← List.getLast?_map, map_id_links, List.getLast?_concat]
    rfl
  · funext id
    rw [Links.position?, position?, ← map_id_links, List.findIdx?_map]
    rfl
  · rw [Links.filters, links, List.filterMap_append, List.filterMap_map, filters]
    exact (List.append_nil _).trans (congrFun (List.filterMap_eq_map (f := Node.filter)) _)
  · intro id edit
    rw [links_updateFilter, Option.isSome_map]

end Chain
end ReportFilters
