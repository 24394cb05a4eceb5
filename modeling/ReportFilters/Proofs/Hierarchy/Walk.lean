import ReportFilters.Proofs.Hierarchy.Reached

/-! Freezing a hierarchy against walking it. Both know the same types and attributes. What they find of
an attribute differs only by values that the walk takes from beyond a change of kind, where a list is
declared again as a scalar or the other way round: the walk takes them all the same, freezing drops
them. -/

namespace ReportFilters.Hierarchy
open SettledType

theorem freeze_get?_eq_none_iff (h : Hierarchy) (name : String) :
    h.freeze.get? name = none ↔ ¬h.contains name := by
  rw [get?_freeze, Option.map_eq_none_iff, contains_iff_lineage, not_not]
  cases h.lineage name <;> simp [ofLineage]

theorem rule_eq_ok_iff {h : Hierarchy} {name attr : String} {rule : AttributeRule} :
    h.rule name attr = .ok rule ↔ ruleAlong attr (h.lineage name) = some rule :=
  ⟨ruleAlong_of_rule, rule_of_ruleAlong⟩

theorem get_of_ruleAlong_eq_none {h : Hierarchy} {name attr : String} (hname : h.contains name)
    (hrule : ruleAlong attr (h.lineage name) = none) :
    h.get name attr = .error (Error.unknownAttribute name attr) := by
  rw [ruleAlong] at hrule
  rw [get, Hierarchy.rule, if_pos hname, hrule]
  rfl

theorem get_of_not_contains {h : Hierarchy} {name : String} (hname : ¬h.contains name) (attr : String) :
    h.get name attr = .error (Error.unknownFilterType name) := by
  rw [get, Hierarchy.rule, if_neg hname]
  rfl

theorem get_ne_unknownFilterType {h : Hierarchy} {name : String} (hname : h.contains name)
    (attr : String) : h.get name attr ≠ .error (Error.unknownFilterType name) := by
  cases hrule : ruleAlong attr (h.lineage name) with
  | none =>
    rw [get_of_ruleAlong_eq_none hname hrule]
    intro herror
    cases congrArg Error.code (Except.error.inj herror)
  | some rule =>
    rw [get_of_ruleAlong hrule]
    rintro ⟨⟩

theorem get_eq_unknownAttribute_iff {h : Hierarchy} {name : String} (hname : h.contains name)
    (attr : String) : h.get name attr = .error (Error.unknownAttribute name attr) ↔
      ruleAlong attr (h.lineage name) = none := by
  refine ⟨fun herror => ?_, get_of_ruleAlong_eq_none hname⟩
  cases hrule : ruleAlong attr (h.lineage name) with
  | none => rfl
  | some rule =>
    rw [get_of_ruleAlong hrule] at herror
    cases herror

theorem untilStop_subset (attr : String) (line : List TypeNode) : untilStop attr line ⊆ line := by
  induction line with
  | nil => exact List.Subset.refl _
  | cons node above ih =>
    rw [untilStop]
    split
    · exact List.cons_subset_cons _ (List.nil_subset _)
    · exact List.cons_subset_cons _ ih

theorem gathered_eq_nil {attr : String} {line : List TypeNode} (h : ∀ node ∈ line, held attr node = [])
    (isList : Bool) : gathered attr isList line = gathered attr isList [] := by
  have hreach : ∀ node ∈ untilStop attr line, held attr node = [] := fun node hnode =>
    h node (untilStop_subset attr line hnode)
  rw [gathered, gathered]
  cases isList with
  | true => simpa [untilStop] using hreach
  | false => simpa [untilStop, List.findSome?_eq_none_iff] using hreach

theorem gathered_cons_congr {attr : String} {isList : Bool} {line other : List TypeNode}
    (h : gathered attr isList line = gathered attr isList other) (node : TypeNode) :
    gathered attr isList (node :: line) = gathered attr isList (node :: other) := by
  by_cases hstop : node.stops.contains attr = true
  · rw [gathered, gathered, untilStop, untilStop, if_pos hstop, if_pos hstop]
  rw [gathered, gathered, untilStop, untilStop, if_neg hstop, if_neg hstop]
  rw [gathered, gathered] at h
  cases isList with
  | true =>
    have hvalues := Resolved.list.inj h
    simp [hvalues]
  | false =>
    have hvalue := Resolved.scalar.inj h
    simp [List.findSome?_cons, hvalue]

theorem Sound.nodup_lineage {h : Hierarchy} (hs : h.Sound) (name : String) :
    ∀ node ∈ h.lineage name, node.rules.names.Nodup := fun node hnode =>
  hs.rules_nodup node (mem_of_mem_lineageIn hnode)

theorem frozen_of_rule {h : Hierarchy} (hs : h.Sound) {name attr : String} {rule : AttributeRule}
    (hrule : h.rule name attr = .ok rule) :
    (h.freeze.get? name).bind (·.get? attr)
      = some (rule.finish (gathered attr rule.isList (ofKind attr rule.isList (h.lineage name)))) := by
  have hline := rule_eq_ok_iff.mp hrule
  cases htype : h.freeze.get? name with
  | none =>
    rw [freeze_get?_eq_none_iff, contains_iff_lineage, not_not] at htype
    rw [htype] at hline
    cases hline
  | some type =>
    rw [Option.bind_some, get?_of_freeze (hs.nodup_lineage name) htype, hline, Option.map_some]

theorem Sound.held_eq_nil {h : Hierarchy} (hs : h.Sound) {attr name : String} {line : List TypeNode}
    (hsuffix : line <:+ h.lineage name) (hrule : ruleAlong attr line = none) :
    ∀ node ∈ line, held attr node = [] := by
  intro node hnode
  obtain ⟨below, above, rfl⟩ := List.append_of_mem hnode
  have hline := lineageIn_of_suffix hs.names_nodup ((List.suffix_append _ _).trans hsuffix)
  have hunseen : ruleAlong attr (node :: above) = none := by
    rw [ruleAlong, List.findSome?_eq_none_iff] at hrule ⊢
    exact fun n hn => hrule n (List.mem_append_right _ hn)
  by_contra hheld
  have hmem := mem_of_mem_lineageIn (hsuffix.subset hnode)
  have hseen := hs.ruled node hmem attr hheld
  rw [lineage, hline, hunseen] at hseen
  cases hseen

def KeepsKind (h : Hierarchy) (attr : String) (isList : Bool) (line : List TypeNode) : Prop :=
  ∀ node ∈ untilStop attr line, ∀ rule, h.rule node.name attr = .ok rule → rule.isList = isList

theorem Sound.gathered_ofKind {h : Hierarchy} (hs : h.Sound) {attr name : String} {isList : Bool}
    {line : List TypeNode} (hsuffix : line <:+ h.lineage name) (hkind : h.KeepsKind attr isList line) :
    gathered attr isList (ofKind attr isList line) = gathered attr isList line := by
  induction line with
  | nil => rfl
  | cons node above ih =>
    have hline := lineageIn_of_suffix hs.names_nodup hsuffix
    cases hrule : ruleAlong attr (node :: above) with
    | none =>
      rw [ofKind_eq_nil (by rw [hrule]; rintro ⟨⟩), gathered_eq_nil (hs.held_eq_nil hsuffix hrule)]
    | some rule =>
      have hself : node ∈ untilStop attr (node :: above) := by
        rw [untilStop]
        split <;> exact List.mem_cons_self ..
      have hsame : rule.isList = isList :=
        hkind node hself rule (rule_of_ruleAlong ((congrArg (ruleAlong attr) hline).trans hrule))
      subst hsame
      rw [ofKind_cons hrule]
      by_cases hstop : node.stops.contains attr = true
      · rw [gathered, gathered, untilStop, untilStop, if_pos hstop, if_pos hstop]
      · refine gathered_cons_congr (ih ((List.suffix_cons _ _).trans hsuffix) ?_) node
        intro n hn
        refine hkind n ?_
        rw [untilStop, if_neg hstop]
        exact List.mem_cons_of_mem _ hn

def Agrees (h : Hierarchy) (name attr : String) : Prop :=
  ∀ found, (h.freeze.get? name).bind (·.get? attr) = some found ↔ h.get name attr = .ok found

theorem agrees_of_rule_eq_error {h : Hierarchy} (hs : h.Sound) {name attr : String}
    (hrule : ruleAlong attr (h.lineage name) = none) : h.Agrees name attr := by
  intro found
  refine iff_of_false ?_ ?_
  · intro hfound
    obtain ⟨type, htype, hattr⟩ := Option.bind_eq_some_iff.mp hfound
    rw [get?_of_freeze (hs.nodup_lineage name) htype, hrule] at hattr
    cases hattr
  · intro hget
    obtain ⟨rule, hok, _⟩ := exists_of_bind_eq_ok hget
    rw [rule_eq_ok_iff.mp hok] at hrule
    cases hrule

/-- However a hierarchy came about, freezing it and walking it know the same types and attributes. What
is frozen of an attribute is what the part of the walk gathers in which the attribute does not change
its kind, so the two agree exactly if the values gathered from beyond make no difference once
duplicates are dropped and defaults filled in. They agree on every attribute that keeps its kind. -/
theorem agrees_iff_of_reached {h : Hierarchy} (hreached : Reached h) (name attr : String) :
    (h.freeze.get? name = none ↔ h.get name attr = .error (Error.unknownFilterType name)) ∧
    (∀ type, h.freeze.get? name = some type →
      (type.get? attr = none ↔ h.get name attr = .error (Error.unknownAttribute name attr))) ∧
    (∀ rule, h.rule name attr = .ok rule →
      (h.freeze.get? name).bind (·.get? attr)
        = some (rule.finish (gathered attr rule.isList (ofKind attr rule.isList (h.lineage name)))) ∧
      h.get name attr = .ok (rule.finish (gathered attr rule.isList (h.lineage name))) ∧
      (h.KeepsKind attr rule.isList (h.lineage name) → h.Agrees name attr)) ∧
    (h.Agrees name attr ↔ ∀ rule, h.rule name attr = .ok rule →
      rule.finish (gathered attr rule.isList (ofKind attr rule.isList (h.lineage name)))
        = rule.finish (gathered attr rule.isList (h.lineage name))) := by
  have hs := hreached.sound
  have hfrozen : ∀ type, h.freeze.get? name = some type → type.get? attr = _ := fun type htype =>
    get?_of_freeze (hs.nodup_lineage name) htype attr
  refine ⟨?_, ?_, ?_, ?_⟩
  · rw [freeze_get?_eq_none_iff]
    exact ⟨fun hname => get_of_not_contains hname attr,
      fun herror hname => get_ne_unknownFilterType hname attr herror⟩
  · intro type htype
    have hname : h.contains name := by
      by_contra hname
      rw [(freeze_get?_eq_none_iff h name).mpr hname] at htype
      cases htype
    rw [hfrozen type htype, Option.map_eq_none_iff, get_eq_unknownAttribute_iff hname]
  · intro rule hrule
    have hfound := frozen_of_rule hs hrule
    have hget := get_of_ruleAlong (rule_eq_ok_iff.mp hrule)
    refine ⟨hfound, hget, fun hkind found => ?_⟩
    rw [hfound, hget, hs.gathered_ofKind (List.suffix_refl _) hkind, Option.some_inj, Except.ok.injEq]
  · constructor
    · intro hagrees rule hrule
      have hget := (hagrees _).mp (frozen_of_rule hs hrule)
      rw [get_of_ruleAlong (rule_eq_ok_iff.mp hrule)] at hget
      exact (Except.ok.inj hget).symm
    · intro hsame
      cases hrule : ruleAlong attr (h.lineage name) with
      | none => exact agrees_of_rule_eq_error hs hrule
      | some rule =>
        have hok := rule_eq_ok_iff.mpr hrule
        intro found
        rw [frozen_of_rule hs hok, get_of_ruleAlong hrule, hsame rule hok, Option.some_inj,
          Except.ok.injEq]

/-- The tag of an entry is a scalar, and declared again as a list for the entries of one type. -/
def retagged : Hierarchy := ⟨[
  { name := "cost", parent := some "entry", rules := [("tag", { isList := true })],
    values := [("tag", [.int 2])] },
  { name := "entry", rules := [("tag", {})], values := [("tag", [.int 1])] }]⟩

theorem reached_retagged : Reached retagged :=
  ⟨[.addType "entry" none, .write "entry" "tag" (.declare {}), .write "entry" "tag" (.set [.int 1]),
    .addType "cost" (some "entry"), .write "cost" "tag" (.declare { isList := true }),
    .write "cost" "tag" (.set [.int 2])], rfl⟩

theorem not_agrees_retagged : Reached retagged ∧
    retagged.get "cost" "tag" = .ok (.list [.int 1, .int 2]) ∧
    (retagged.freeze.get? "cost").bind (·.get? "tag") = some (.list [.int 2]) ∧
    ¬retagged.Agrees "cost" "tag" := by
  have hget : retagged.get "cost" "tag" = .ok (.list [.int 1, .int 2]) := rfl
  have hfrozen : (retagged.freeze.get? "cost").bind (·.get? "tag") = some (.list [.int 2]) := rfl
  refine ⟨reached_retagged, hget, hfrozen, fun hagrees => ?_⟩
  have hother := (hagrees _).mp hfrozen
  rw [hget] at hother
  exact absurd hother (by decide)

theorem agrees_retagged : Reached retagged ∧ retagged.rule "entry" "tag" = .ok {} ∧
    retagged.Agrees "entry" "tag" ∧ ¬retagged.Agrees "cost" "tag" := by
  obtain ⟨-, -, -, hentry⟩ := agrees_iff_of_reached reached_retagged "entry" "tag"
  obtain ⟨-, -, -, hcost⟩ := agrees_iff_of_reached reached_retagged "cost" "tag"
  refine ⟨reached_retagged, rfl, ?_, ?_⟩
  · rw [hentry]
    rintro rule ⟨⟩
    rfl
  · rw [hcost]
    intro hsame
    exact absurd (hsame { isList := true } rfl) (by decide)

end ReportFilters.Hierarchy
