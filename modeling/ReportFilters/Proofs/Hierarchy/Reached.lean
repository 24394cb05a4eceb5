import ReportFilters.Proofs.Hierarchy.Calls

/-! Hierarchies that are made from nothing. They are ordered as all are that grow by calls, and a type of
theirs has values only of attributes that it sees. -/

namespace ReportFilters.Hierarchy
open SettledType

def Reached (h : Hierarchy) : Prop := ∃ calls, h = empty.afterAll calls

structure Sound (h : Hierarchy) : Prop extends Ordered h where
  ruled : ∀ node ∈ h.newestFirst, ∀ attr, held attr node ≠ [] →
    (ruleAlong attr (h.lineage node.name)).isSome

theorem sound_empty : empty.Sound where
  toOrdered := Grown.empty.ordered
  ruled _ hn := nomatch hn

namespace Sound

variable {h : Hierarchy} (hs : h.Sound)
include hs

theorem addType {next : Hierarchy} {name : String} {parent : Option String}
    (hnext : h.addType name parent = .ok next) : next.Sound := by
  have hordered := hs.toOrdered.addType hnext
  obtain ⟨-, -, rfl⟩ := exists_of_addType hnext
  refine ⟨hordered, fun n hn attr hheld => ?_⟩
  rcases List.mem_cons.mp hn with rfl | hn
  · exact absurd rfl hheld
  · rw [lineage, lineageIn_cons_of_mem hordered.names_nodup hn]
    exact hs.ruled n hn attr hheld

theorem withNode {name attr : String} {f : TypeNode → TypeNode}
    (hf : ∀ node, Touches attr node (f node))
    (hvalues : (∀ node, held attr (f node) = held attr node) ∨
      (ruleAlong attr (h.lineage name)).isSome) : (h.withNode name f).Sound := by
  have hg := touches_withNode hf name
  have hruled : ∀ other line, (ruleAlong other line).isSome →
      (ruleAlong other (line.map fun node => if node.name = name then f node else node)).isSome := by
    intro other line
    rw [ruleAlong, ruleAlong, List.findSome?_isSome_iff, List.findSome?_isSome_iff]
    rintro ⟨n, hn, hrule⟩
    exact ⟨_, List.mem_map_of_mem hn, (hg n).isRuled_of hrule⟩
  refine ⟨hs.toOrdered.withNode hf name, fun changed hchanged other hheld => ?_⟩
  obtain ⟨n, hn, rfl⟩ := List.mem_map.mp hchanged
  rw [lineage_withNode hf, (hg n).name]
  refine hruled other _ ?_
  by_cases hother : other = attr
  · subst hother
    -- the values of the attribute itself are either as they were or of a type that sees it
    split at hheld
    next hself =>
      rcases hvalues with hsame | hrule
      · exact hs.ruled n hn other (hsame n ▸ hheld)
      · exact hself ▸ hrule
    next => exact hs.ruled n hn other hheld
  · rw [(hg n).held other hother] at hheld
    exact hs.ruled n hn other hheld

theorem after (call : Call) : (call.after h).Sound := by
  rw [Call.after_eq]
  cases hnext : call.result h with
  | error error => exact hs
  | ok next =>
    cases call with
    | addType name parent => exact hs.addType hnext
    | write name attr w =>
      obtain ⟨f, hf, hvalues, rfl⟩ := w.exists_touches hnext
      exact hs.withNode hf hvalues

theorem afterAll (calls : List Call) : (h.afterAll calls).Sound := by
  induction calls generalizing h with
  | nil => exact hs
  | cons call rest ih => exact ih (hs.after call)

end Sound

theorem Reached.sound {h : Hierarchy} (hh : Reached h) : h.Sound := by
  obtain ⟨calls, rfl⟩ := hh
  exact sound_empty.afterAll calls

end ReportFilters.Hierarchy
