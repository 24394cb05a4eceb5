import ReportFilters.Proofs.Hierarchy.Order
import ReportFilters.Proofs.Hierarchy.Walk

/-! Loops that look a type up by name and go on to its parent. Nothing in such a loop gets smaller, and
on any links between names it need not end. In a grown hierarchy it does, whatever name it starts
with, in no more rounds than there are types and two more, and it finds what the lineage says. -/

namespace ReportFilters.Hierarchy
open SettledType

/-- A loop for at most so many rounds, each of which goes on from another state or ends it. -/
def loop {σ α : Type} (round : σ → σ ⊕ α) : Nat → σ → Option α
  | 0, _ => none
  | n + 1, s =>
    match round s with
    | .inl next => loop round n next
    | .inr a => some a

def Ends {σ α : Type} (round : σ → σ ⊕ α) (s : σ) (a : α) (count : Nat) : Prop :=
  ∀ n, count ≤ n → loop round n s = some a

theorem Ends.now {σ α : Type} {round : σ → σ ⊕ α} {s : σ} {a : α} (h : round s = .inr a)
    (count : Nat) : Ends round s a (count + 1) := by
  intro n hn
  obtain ⟨m, rfl⟩ := Nat.exists_eq_add_of_lt hn
  rw [loop, h]

theorem Ends.next {σ α : Type} {round : σ → σ ⊕ α} {s t : σ} {a : α} {count : Nat}
    (h : round s = .inl t) (ht : Ends round t a count) : Ends round s a (count + 1) := by
  intro n hn
  cases n with
  | zero => exact absurd hn (Nat.not_succ_le_zero _)
  | succ n =>
    rw [loop, h]
    exact ht n (Nat.le_of_succ_le_succ hn)

def ruleRound (h : Hierarchy) (start attr : String) :
    Option String → Option String ⊕ Except Error AttributeRule
  | none => .inr (.error (Error.unknownAttribute start attr))
  | some name =>
    match h.node? name with
    | none => .inr (.error (Error.unknownFilterType name))
    | some node =>
      match node.rules.get? attr with
      | some rule => .inr (.ok rule)
      | none => .inl node.parent

def reachRound (h : Hierarchy) (attr : String) : Option String × List TypeNode →
    (Option String × List TypeNode) ⊕ Except Error (List TypeNode)
  | (none, reach) => .inr (.ok reach)
  | (some name, reach) =>
    match h.node? name with
    | none => .inr (.error (Error.unknownFilterType name))
    | some node =>
      if node.stops.contains attr then .inr (.ok (reach ++ [node]))
      else .inl (node.parent, reach ++ [node])

def isARound (frozen : FrozenHierarchy) (ancestor : String) : Option String → Option String ⊕ Bool
  | none => .inr false
  | some name =>
    if name = ancestor then .inr true else .inl ((frozen.get? name).bind FrozenType.parent)

def resolved (attr : String) (rule : AttributeRule) (reach : List TypeNode) : Resolved :=
  if rule.isList then rule.finish (.list (reach.reverse.flatMap (held attr)))
  else rule.finish (.scalar (reach.findSome? fun node => (held attr node).head?))

def getLoop (h : Hierarchy) (rounds : Nat) (name attr : String) : Option (Except Error Resolved) := do
  match ← loop (h.ruleRound name attr) rounds (some name) with
  | .error error => some (.error error)
  | .ok rule =>
    let reach ← loop (h.reachRound attr) rounds (some name, [])
    some (reach.map (resolved attr rule))

theorem parent_freeze (h : Hierarchy) (name : String) :
    (h.freeze.get? name).bind FrozenType.parent = h.parent? name := by
  rw [get?_freeze, parent?, ← head?_lineage]
  cases h.lineage name <;> rfl

theorem length_lineage_le (h : Hierarchy) (name : String) : (h.lineage name).length ≤ h.names.length := by
  have hnodes : ∀ nodes : List TypeNode, ∀ name, (lineageIn nodes name).length ≤ nodes.length := by
    intro nodes
    induction nodes with
    | nil => exact fun _ => Nat.le_refl _
    | cons node older ih =>
      intro name
      rw [lineageIn_cons]
      split
      · cases node.parent with
        | none => simp
        | some parent => simpa using ih parent
      · exact (ih name).trans (Nat.le_succ _)
  have hnames : h.names.length = h.newestFirst.length := by simp [names]
  rw [hnames]
  exact hnodes h.newestFirst name

def enough (h : Hierarchy) : Nat := h.names.length + 2

theorem Ends.of_lineage {σ α : Type} {h : Hierarchy} {round : σ → σ ⊕ α} {s : σ} {a : α}
    {name : String} (hend : Ends round s a ((h.above (some name)).length + 1)) {rounds : Nat}
    (hrounds : h.enough ≤ rounds) : loop round rounds s = some a := by
  have hlength : (h.above (some name)).length ≤ h.names.length := h.length_lineage_le name
  exact hend rounds (((Nat.succ_le_succ hlength).trans (Nat.le_succ _)).trans hrounds)

theorem Ends.of_unknown {σ α : Type} {h : Hierarchy} {round : σ → σ ⊕ α} {s : σ} {a : α}
    (hend : Ends round s a 2) {rounds : Nat} (hrounds : h.enough ≤ rounds) : loop round rounds s = some a :=
  hend rounds ((Nat.le_add_left 2 _).trans hrounds)

theorem node?_eq_none {h : Hierarchy} {name : String} (hname : h.contains name = false) :
    h.node? name = none := by
  simpa [contains] using hname

section
variable {h : Hierarchy} (hh : h.Ordered)
include hh

theorem Ordered.ends_ruleRound (name attr : String) {start : Option String}
    (hstart : ∀ known ∈ start, h.contains known = true) :
    Ends (h.ruleRound name attr) start
      (match ruleAlong attr (h.above start) with
        | some rule => .ok rule
        | none => .error (Error.unknownAttribute name attr))
      ((h.above start).length + 1) := by
  induction start, hstart using hh.way_induction with
  | stop =>
    have hround : h.ruleRound name attr none = .inr (.error (Error.unknownAttribute name attr)) := rfl
    exact .now hround _
  | step known _ node _ hnode ih =>
    rw [hh.above_some hnode, ruleAlong_cons]
    have hround : h.ruleRound name attr (some known) = match node.rules.get? attr with
        | some rule => .inr (.ok rule)
        | none => .inl node.parent := by
      rw [ruleRound, hnode]
    cases hrule : node.rules.get? attr with
    | some rule =>
      rw [hrule] at hround
      exact .now hround _
    | none =>
      rw [hrule] at hround
      exact .next hround ih

theorem Ordered.ends_reachRound (attr : String) {start : Option String}
    (hstart : ∀ known ∈ start, h.contains known = true) (reach : List TypeNode) :
    Ends (h.reachRound attr) (start, reach) (.ok (reach ++ untilStop attr (h.above start)))
      ((h.above start).length + 1) := by
  induction start, hstart using hh.way_induction generalizing reach with
  | stop =>
    have hround : h.reachRound attr (none, reach) = .inr (.ok reach) := rfl
    rw [above, Option.map_none, Option.getD_none, untilStop, List.append_nil]
    exact .now hround _
  | step known _ node _ hnode ih =>
    rw [hh.above_some hnode, untilStop]
    have hround : h.reachRound attr (some known, reach) =
        if node.stops.contains attr then .inr (.ok (reach ++ [node]))
        else .inl (node.parent, reach ++ [node]) := by
      rw [reachRound, hnode]
    by_cases hstop : node.stops.contains attr = true
    · rw [if_pos hstop] at hround ⊢
      exact .now hround _
    · -- what was collected stands before what is still to come
      have hrest := ih (reach ++ [node])
      rw [List.append_assoc] at hrest
      rw [if_neg hstop] at hround ⊢
      exact .next hround hrest

theorem Ordered.ends_isARound (ancestor : String) {start : Option String}
    (hstart : ∀ known ∈ start, h.contains known = true) :
    Ends (isARound h.freeze ancestor) start (((h.above start).map TypeNode.name).contains ancestor)
      ((h.above start).length + 1) := by
  induction start, hstart using hh.way_induction with
  | stop =>
    have hround : isARound h.freeze ancestor none = .inr false := rfl
    exact .now hround _
  | step known _ node _ hnode ih =>
    rw [hh.above_some hnode, List.map_cons, (node?_eq_some hnode).2]
    have hround : isARound h.freeze ancestor (some known) =
        if known = ancestor then .inr true else .inl node.parent := by
      rw [isARound, parent_freeze, parent?, hnode, Option.bind_some]
    by_cases hself : known = ancestor
    · rw [if_pos hself] at hround
      subst hself
      rw [List.contains_cons, beq_self_eq_true, Bool.true_or]
      exact .now hround _
    · rw [if_neg hself] at hround
      rw [List.contains_cons, beq_eq_false_iff_ne.mpr (Ne.symm hself), Bool.false_or]
      exact .next hround ih

theorem Ordered.loop_rule {rounds : Nat} (hrounds : h.enough ≤ rounds) (name attr : String) :
    loop (h.ruleRound name attr) rounds (some name) = some (h.rule name attr) := by
  rw [Hierarchy.rule]
  cases hname : h.contains name with
  | true =>
    rw [if_pos rfl]
    exact (hh.ends_ruleRound name attr (known_some hname)).of_lineage hrounds
  | false =>
    have hround : h.ruleRound name attr (some name) = .inr (.error (Error.unknownFilterType name)) := by
      rw [ruleRound, node?_eq_none hname]
    rw [if_neg Bool.false_ne_true]
    exact (Ends.now hround 1).of_unknown hrounds

theorem Ordered.loop_get {rounds : Nat} (hrounds : h.enough ≤ rounds) (name attr : String) :
    h.getLoop rounds name attr = some (h.get name attr) := by
  rw [getLoop, hh.loop_rule hrounds]
  cases hrule : h.rule name attr with
  | error error =>
    rw [get, hrule]
    rfl
  | ok rule =>
    have hline := ruleAlong_of_rule hrule
    have hname : h.contains name = true := by
      rw [contains_iff_lineage]
      intro hnil
      rw [hnil] at hline
      cases hline
    have hreach := (hh.ends_reachRound attr (known_some hname) []).of_lineage hrounds
    rw [get_of_ruleAlong hline, Option.bind_eq_bind, Option.bind_some]
    dsimp only
    rw [hreach, Option.bind_eq_bind, Option.bind_some, gathered, Except.map, resolved]
    split <;> rfl

theorem Ordered.loop_isA {rounds : Nat} (hrounds : h.enough ≤ rounds) (name ancestor : String) :
    loop (isARound h.freeze ancestor) rounds (some name) = some (h.freeze.isA name ancestor) := by
  rw [hh.isA_eq]
  cases hname : h.contains name with
  | true =>
    obtain ⟨node, hnode⟩ := Option.isSome_iff_exists.mp hname
    rw [hh.ancestry_of_node? hnode]
    exact (hh.ends_isARound ancestor (known_some hname)).of_lineage hrounds
  | false =>
    have hnode := node?_eq_none hname
    have hround : isARound h.freeze ancestor (some name) =
        if name = ancestor then .inr true else .inl none := by
      rw [isARound, parent_freeze, parent?, hnode, Option.bind_none]
    rw [ancestry, lineage_eq_nil hnode, List.tail_nil, List.map_nil]
    by_cases hself : name = ancestor
    · rw [if_pos hself] at hround
      subst hself
      rw [List.contains_cons, beq_self_eq_true, Bool.true_or]
      exact (Ends.now hround 1).of_unknown hrounds
    · have hlast : isARound h.freeze ancestor none = .inr false := rfl
      rw [if_neg hself] at hround
      rw [List.contains_cons, beq_eq_false_iff_ne.mpr (Ne.symm hself), Bool.false_or]
      exact (Ends.next hround (.now hlast 0)).of_unknown hrounds

end

structure Arranged (h : Hierarchy) : Prop where
  names_nodup : h.names.Nodup
  parent_before : ∀ child parent, h.HasParent child parent →
    parent ∈ h.names ∧ h.names.idxOf parent < h.names.idxOf child
  wellFounded : WellFounded fun parent child => h.HasParent child parent
  loop_rule : ∀ rounds, h.enough ≤ rounds → ∀ name attr,
    loop (h.ruleRound name attr) rounds (some name) = some (h.rule name attr)
  loop_get : ∀ rounds, h.enough ≤ rounds → ∀ name attr,
    h.getLoop rounds name attr = some (h.get name attr)
  loop_isA : ∀ rounds, h.enough ≤ rounds → ∀ name ancestor,
    loop (isARound h.freeze ancestor) rounds (some name) = some (h.freeze.isA name ancestor)
  known : ∀ name, h.contains name = true → ∀ attr error,
    h.rule name attr = .error error ∨ h.get name attr = .error error →
      error = Error.unknownAttribute name attr
  isA_iff : ∀ name other, h.freeze.isA name other = true ↔ Relation.ReflTransGen h.HasParent name other
  isA_trans : ∀ name other third, h.freeze.isA name other = true → h.freeze.isA other third = true →
    h.freeze.isA name third = true
  isA_antisymm : ∀ name other, h.freeze.isA name other = true → h.freeze.isA other name = true →
    name = other

theorem rule_eq_error {h : Hierarchy} {name attr : String} {error : Error}
    (hname : h.contains name = true) (herror : h.rule name attr = .error error) :
    error = Error.unknownAttribute name attr := by
  rw [Hierarchy.rule, if_pos hname] at herror
  split at herror
  · cases herror
  · exact (Except.error.inj herror).symm

theorem get_eq_error {h : Hierarchy} {name attr : String} {error : Error}
    (hname : h.contains name = true) (herror : h.get name attr = .error error) :
    error = Error.unknownAttribute name attr := by
  cases hrule : ruleAlong attr (h.lineage name) with
  | none =>
    rw [get_of_ruleAlong_eq_none hname hrule] at herror
    exact (Except.error.inj herror).symm
  | some rule =>
    rw [get_of_ruleAlong hrule] at herror
    cases herror

theorem Ordered.arranged {h : Hierarchy} (hh : h.Ordered) : h.Arranged where
  names_nodup := List.nodup_reverse.mpr hh.names_nodup
  parent_before child parent hp := by
    obtain ⟨hknown, hlt⟩ := hh.parent_before hp
    exact ⟨List.mem_reverse.mpr ((contains_iff_mem h parent).mp hknown), hlt⟩
  wellFounded := hh.wellFounded
  loop_rule _ hrounds := hh.loop_rule hrounds
  loop_get _ hrounds := hh.loop_get hrounds
  loop_isA _ hrounds := hh.loop_isA hrounds
  known _ hname _ _ herror := herror.elim (rule_eq_error hname) (get_eq_error hname)
  isA_iff := hh.isA_iff
  isA_trans name other third hbelow habove := by
    rw [hh.isA_iff] at *
    exact hbelow.trans habove
  isA_antisymm name other hbelow habove := by
    rw [hh.isA_iff] at hbelow habove
    exact hh.isBelow_antisymm hbelow habove

end ReportFilters.Hierarchy
