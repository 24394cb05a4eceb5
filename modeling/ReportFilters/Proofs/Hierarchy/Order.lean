import Mathlib.Logic.Relation
import Mathlib.Order.WellFounded
import ReportFilters.Proofs.Hierarchy.Calls

/-! The order of types. In a grown hierarchy every type was added after its parent, so the way from a
type to its parent and on comes to an end, and a type is below another exactly if the way leads there.
The lineage of a type is the way. -/

namespace ReportFilters.Hierarchy
open SettledType

def HasParent (h : Hierarchy) (child parent : String) : Prop := h.parent? child = some parent

def IsBelow (h : Hierarchy) : String → String → Prop := Relation.ReflTransGen h.HasParent

theorem ParentsFirst.parent_mem {nodes : List TypeNode} (h : ParentsFirst nodes) {node : TypeNode}
    (hnode : node ∈ nodes) {parent : String} (hparent : parent ∈ node.parent) :
    parent ∈ nodes.map TypeNode.name := by
  induction h with
  | nil => cases hnode
  | cons hknown _ ih =>
    rcases List.mem_cons.mp hnode with rfl | holder
    · exact List.mem_cons_of_mem _ (hknown parent hparent)
    · exact List.mem_cons_of_mem _ (ih holder)

theorem ParentsFirst.idxOf_lt {nodes : List TypeNode} (h : ParentsFirst nodes)
    (hnodup : (nodes.map TypeNode.name).Nodup) {node : TypeNode} (hnode : node ∈ nodes)
    {parent : String} (hparent : parent ∈ node.parent) :
    (nodes.map TypeNode.name).reverse.idxOf parent
      < (nodes.map TypeNode.name).reverse.idxOf node.name := by
  induction h with
  | nil => cases hnode
  | @cons newest older hknown holder ih =>
    obtain ⟨hfresh, hnodup⟩ := List.nodup_cons.mp hnodup
    have hbehind : ∀ name ∈ older.map TypeNode.name,
        ((older.map TypeNode.name).reverse ++ [newest.name]).idxOf name
          = (older.map TypeNode.name).reverse.idxOf name := fun name hname =>
      List.idxOf_append_of_mem (List.mem_reverse.mpr hname)
    rw [List.map_cons, List.reverse_cons]
    rcases List.mem_cons.mp hnode with rfl | hnode
    · -- the newest type is at the end, its parent before it
      have hmem : parent ∈ (older.map TypeNode.name).reverse := List.mem_reverse.mpr (hknown parent hparent)
      rw [List.idxOf_append_of_mem hmem, List.idxOf_append_of_notMem (mt List.mem_reverse.mp hfresh)]
      exact Nat.lt_add_right _ (List.idxOf_lt_length_of_mem hmem)
    · rw [hbehind parent (holder.parent_mem hnode hparent), hbehind _ (List.mem_map_of_mem hnode)]
      exact ih hnodup hnode

theorem ParentsFirst.lineageIn_eq {nodes : List TypeNode} (h : ParentsFirst nodes)
    (hnodup : (nodes.map TypeNode.name).Nodup) {node : TypeNode} (hnode : node ∈ nodes) :
    lineageIn nodes node.name = node :: (node.parent.map (lineageIn nodes)).getD [] := by
  induction h with
  | nil => cases hnode
  | @cons newest older hknown holder ih =>
    -- the newest type is not on the way of an older one
    have hbehind : ∀ parent ∈ older.map TypeNode.name,
        lineageIn (newest :: older) parent = lineageIn older parent := by
      intro parent hparent
      obtain ⟨m, hm, rfl⟩ := List.mem_map.mp hparent
      exact lineageIn_cons_of_mem hnodup hm
    have hparent : ∀ parent ∈ node.parent, parent ∈ older.map TypeNode.name := by
      rcases List.mem_cons.mp hnode with rfl | hmem
      · exact hknown
      · exact fun parent hparent => holder.parent_mem hmem hparent
    have hsame : node.parent.map (lineageIn (newest :: older)) = node.parent.map (lineageIn older) :=
      Option.map_congr fun parent hp => hbehind parent (hparent parent hp)
    rw [hsame]
    rcases List.mem_cons.mp hnode with rfl | hmem
    · rw [lineageIn_cons, if_pos rfl]
    · rw [lineageIn_cons_of_mem hnodup hmem, ih (List.nodup_cons.mp hnodup).2 hmem]

theorem head?_lineage (h : Hierarchy) (name : String) : (h.lineage name).head? = h.node? name := by
  obtain ⟨nodes⟩ := h
  rw [lineage, node?]
  induction nodes with
  | nil => rfl
  | cons node older ih =>
    rw [lineageIn_cons, List.find?_cons]
    by_cases hname : node.name = name
    · simp [hname]
    · simpa [hname] using ih

theorem lineage_eq_nil {h : Hierarchy} {name : String} (hnone : h.node? name = none) :
    h.lineage name = [] := by
  rwa [← head?_lineage, List.head?_eq_none_iff] at hnone

theorem node?_eq_some {h : Hierarchy} {name : String} {node : TypeNode}
    (hnode : h.node? name = some node) : node ∈ h.newestFirst ∧ node.name = name := by
  have hname := List.find?_some hnode
  exact ⟨List.mem_of_find?_eq_some hnode, of_decide_eq_true hname⟩

theorem known_some {h : Hierarchy} {name : String} (hname : h.contains name = true) :
    ∀ known ∈ some name, h.contains known = true := by
  rintro known ⟨⟩
  exact hname

theorem hasParent_iff {h : Hierarchy} {child parent : String} :
    h.HasParent child parent ↔ ∃ node, h.node? child = some node ∧ node.parent = some parent :=
  Option.bind_eq_some_iff

def above (h : Hierarchy) (start : Option String) : List TypeNode := (start.map h.lineage).getD []

def ancestry (h : Hierarchy) (name : String) : List String :=
  name :: (h.lineage name).tail.map TypeNode.name

theorem ancestryIn_cons (type : FrozenType) (older : List FrozenType) (name : String) :
    FrozenHierarchy.ancestryIn (type :: older) name =
      if type.name = name then name :: (type.parent.map (FrozenHierarchy.ancestryIn older)).getD []
      else FrozenHierarchy.ancestryIn older name := by
  rw [FrozenHierarchy.ancestryIn]
  cases type.parent <;> rfl

theorem ParentsFirst.ancestryIn_eq {nodes : List TypeNode} (h : ParentsFirst nodes) (name : String) :
    FrozenHierarchy.ancestryIn ((settleAll nodes).map finish) name
      = name :: (lineageIn nodes name).tail.map TypeNode.name := by
  induction h generalizing name with
  | nil => rfl
  | @cons node older hknown holder ih =>
    rw [settleAll, List.map_cons, ancestryIn_cons, lineageIn_cons]
    by_cases hsame : node.name = name
    · refine (if_pos hsame).trans ?_
      rw [if_pos hsame, parent_finish_ofNode]
      cases hparent : node.parent with
      | none => rfl
      | some parent =>
        have hmem : parent ∈ older.map TypeNode.name := hknown parent hparent
        rw [← contains_iff_mem ⟨older⟩, contains, ← head?_lineage] at hmem
        obtain ⟨m, hm⟩ := Option.isSome_iff_exists.mp hmem
        have hname := (node?_eq_some ((head?_lineage ⟨older⟩ parent).symm.trans hm)).2
        obtain ⟨above, habove⟩ := List.head?_eq_some_iff.mp hm
        rw [lineage] at habove
        simp [ih, habove, hname]
    · refine (if_neg hsame).trans ?_
      rw [if_neg hsame]
      exact ih name

theorem Ordered.isA_eq {h : Hierarchy} (hh : h.Ordered) (name other : String) :
    h.freeze.isA name other = (h.ancestry name).contains other := by
  rw [FrozenHierarchy.isA, freeze, hh.parentsFirst.ancestryIn_eq]
  rfl

section
variable {h : Hierarchy} (hh : h.Ordered)
include hh

theorem Ordered.above_some {name : String} {node : TypeNode} (hnode : h.node? name = some node) :
    h.above (some name) = node :: h.above node.parent := by
  obtain ⟨hmem, rfl⟩ := node?_eq_some hnode
  exact hh.parentsFirst.lineageIn_eq hh.names_nodup hmem

theorem Ordered.parent_before {child parent : String} (hp : h.HasParent child parent) :
    h.contains parent = true ∧ h.names.idxOf parent < h.names.idxOf child := by
  obtain ⟨node, hnode, hparent⟩ := hasParent_iff.mp hp
  obtain ⟨hmem, rfl⟩ := node?_eq_some hnode
  exact ⟨(contains_iff_mem h parent).mpr (hh.parentsFirst.parent_mem hmem hparent),
    hh.parentsFirst.idxOf_lt hh.names_nodup hmem hparent⟩

theorem Ordered.wellFounded : WellFounded fun parent child => h.HasParent child parent :=
  Subrelation.wf (fun hp => (hh.parent_before hp).2) (measure fun name => h.names.idxOf name).wf

theorem Ordered.way_induction
    {P : (start : Option String) → (∀ name ∈ start, h.contains name = true) → Prop}
    (stop : ∀ hnone, P none hnone)
    (step : ∀ name hname node hparent, h.node? name = some node → P node.parent hparent →
      P (some name) hname)
    (start : Option String) (hstart : ∀ name ∈ start, h.contains name = true) : P start hstart := by
  have hall : ∀ name hname, P (some name) hname := by
    intro name
    -- the parent comes before the type, so the induction is on well-founded parenthood
    induction name using hh.wellFounded.induction with
    | _ name ih =>
      intro hname
      obtain ⟨node, hnode⟩ := Option.isSome_iff_exists.mp (hname name rfl)
      have hp : ∀ parent ∈ node.parent, h.HasParent name parent := fun parent hparent =>
        hasParent_iff.mpr ⟨node, hnode, hparent⟩
      have hknown : ∀ parent ∈ node.parent, h.contains parent = true := fun parent hparent =>
        (hh.parent_before (hp parent hparent)).1
      have hrest : ∀ next, next = node.parent → ∀ hnext, P next hnext := by
        rintro (_ | parent) hparent hnext
        · exact stop hnext
        · exact ih parent (hp parent hparent.symm) hnext
      exact step name hname node hknown hnode (hrest _ rfl hknown)
  cases start with
  | none => exact stop hstart
  | some name => exact hall name hstart

theorem Ordered.ancestry_of_node? {name : String} {node : TypeNode} (hnode : h.node? name = some node) :
    h.ancestry name = (h.lineage name).map TypeNode.name := by
  have hline : h.lineage name = node :: h.above node.parent := hh.above_some hnode
  rw [ancestry, hline, List.map_cons, List.tail_cons, (node?_eq_some hnode).2]

theorem Ordered.ancestry_of_parent {name parent : String} (hp : h.HasParent name parent) :
    h.ancestry name = name :: h.ancestry parent := by
  obtain ⟨node, hnode, hparent⟩ := hasParent_iff.mp hp
  obtain ⟨above, habove⟩ := Option.isSome_iff_exists.mp (hh.parent_before hp).1
  have hline : h.lineage name = node :: h.above node.parent := hh.above_some hnode
  rw [hh.ancestry_of_node? habove, ancestry, hline, hparent]
  rfl

theorem Ordered.isBelow_of_mem_above {start : Option String}
    (hstart : ∀ known ∈ start, h.contains known = true) {name other : String} (hname : name ∈ start)
    (hmem : other ∈ (h.above start).map TypeNode.name) : h.IsBelow name other := by
  induction start, hstart using hh.way_induction generalizing name with
  | stop => cases hname
  | step child _ node _ hnode ih =>
    cases hname
    rw [hh.above_some hnode, List.map_cons, List.mem_cons, (node?_eq_some hnode).2] at hmem
    rcases hmem with rfl | habove
    · exact .refl
    · cases hparent : node.parent with
      | none =>
        rw [hparent] at habove
        cases habove
      | some parent =>
        have hp : h.HasParent child parent := hasParent_iff.mpr ⟨node, hnode, hparent⟩
        exact .head hp (ih hparent habove)

theorem Ordered.isBelow_of_mem {name other : String} (hmem : other ∈ h.ancestry name) :
    h.IsBelow name other := by
  cases hnode : h.node? name with
  | none =>
    rw [ancestry, lineage_eq_nil hnode, List.tail_nil, List.map_nil, List.mem_singleton] at hmem
    exact hmem ▸ .refl
  | some node =>
    rw [hh.ancestry_of_node? hnode] at hmem
    have hknown : h.contains name = true := by rw [contains, hnode, Option.isSome_some]
    exact hh.isBelow_of_mem_above (known_some hknown) rfl hmem

theorem Ordered.isBelow_iff (name other : String) : h.IsBelow name other ↔ other ∈ h.ancestry name := by
  refine ⟨fun hbelow => ?_, hh.isBelow_of_mem⟩
  induction hbelow using Relation.ReflTransGen.head_induction_on with
  | refl => exact List.mem_cons_self ..
  | head hp _ ih =>
    rw [hh.ancestry_of_parent hp]
    exact List.mem_cons_of_mem _ ih

theorem Ordered.isA_iff (name other : String) : h.freeze.isA name other = true ↔ h.IsBelow name other := by
  rw [hh.isA_eq, List.contains_iff_mem, hh.isBelow_iff]

theorem Ordered.eq_or_idxOf_lt {name other : String} (hbelow : h.IsBelow name other) :
    name = other ∨ h.names.idxOf other < h.names.idxOf name := by
  induction hbelow using Relation.ReflTransGen.head_induction_on with
  | refl => exact .inl rfl
  | head hp _ ih =>
    have hlt := (hh.parent_before hp).2
    rcases ih with rfl | hrest
    · exact .inr hlt
    · exact .inr (hrest.trans hlt)

theorem Ordered.isBelow_antisymm {name other : String} (hbelow : h.IsBelow name other)
    (habove : h.IsBelow other name) : name = other := by
  rcases hh.eq_or_idxOf_lt hbelow with heq | hlt
  · exact heq
  rcases hh.eq_or_idxOf_lt habove with heq | hgt
  · exact heq.symm
  · exact absurd hgt (Nat.lt_asymm hlt)

end

end ReportFilters.Hierarchy
