import ReportFilters.Proofs.Hierarchy.Order
import ReportFilters.Proofs.Hierarchy.Walk

/-! What calls leave as it was. All that is found of a type, by walking or by freezing, is found in its
lineage. A new type is in no lineage but its own, and a write changes nodes only in the lineages of its
type and of its descendants, there in a single attribute; what is found of any other attribute reads
over this one. -/

namespace ReportFilters.Hierarchy
open SettledType

structure SameType (h left : Hierarchy) (type : String) : Prop where
  get : ∀ attr, left.get type attr = h.get type attr
  frozen : left.freeze.get? type = h.freeze.get? type

structure SameAttribute (h left : Hierarchy) (type attr : String) : Prop where
  get : left.get type attr = h.get type attr
  frozen : (left.freeze.get? type).map (·.get? attr) = (h.freeze.get? type).map (·.get? attr)

/-! Types with the same lineage. -/

theorem contains_congr {h left : Hierarchy} {type : String}
    (hline : left.lineage type = [] ↔ h.lineage type = []) : left.contains type = h.contains type := by
  rw [Bool.eq_iff_iff, contains_iff_lineage, contains_iff_lineage]
  exact not_congr hline

theorem sameType_of_lineage {h left : Hierarchy} {type : String}
    (hline : left.lineage type = h.lineage type) : SameType h left type where
  get attr := by
    have hcontains : left.contains type = h.contains type := contains_congr (by rw [hline])
    rw [get, get, Hierarchy.rule, Hierarchy.rule, hcontains, hline]
  frozen := by rw [get?_freeze, get?_freeze, hline]

theorem lineage_of_addType {h next : Hierarchy} {name : String} {parent : Option String}
    (hnext : h.addType name parent = .ok next) {type : String} (htype : h.contains type = true) :
    next.lineage type = h.lineage type := by
  obtain ⟨hfresh, _, rfl⟩ := exists_of_addType hnext
  have hother : name ≠ type := by
    rintro rfl
    exact Bool.false_ne_true (hfresh.symm.trans htype)
  rw [lineage, lineageIn_cons, if_neg hother]
  rfl

theorem Ordered.lineage_of_not_isBelow {h : Hierarchy} (hh : h.Ordered) {attr : String}
    {f : TypeNode → TypeNode} (hf : ∀ node, Touches attr node (f node)) {name type : String}
    (hnot : ¬h.IsBelow type name) : (h.withNode name f).lineage type = h.lineage type := by
  have hother : ∀ node ∈ h.lineage type, node.name ≠ name := by
    rintro node hmem rfl
    have hknown : h.contains type = true := by
      rw [contains_iff_lineage]
      exact List.ne_nil_of_mem hmem
    obtain ⟨first, hfirst⟩ := Option.isSome_iff_exists.mp hknown
    refine hnot (hh.isBelow_of_mem ?_)
    rw [hh.ancestry_of_node? hfirst]
    exact List.mem_map_of_mem hmem
  rw [lineage_withNode hf, List.map_congr_left fun node hmem => if_neg (hother node hmem), List.map_id']

/-! Other attributes. -/

section
variable {attr other : String} {g : TypeNode → TypeNode} (hg : ∀ node, Touches attr node (g node))
  (hother : other ≠ attr)
include hg hother

theorem ruleAlong_map (line : List TypeNode) : ruleAlong other (line.map g) = ruleAlong other line := by
  induction line with
  | nil => rfl
  | cons node above ih => rw [List.map_cons, ruleAlong_cons, ruleAlong_cons, (hg node).rules other hother, ih]

theorem untilStop_map (line : List TypeNode) : untilStop other (line.map g) = (untilStop other line).map g := by
  induction line with
  | nil => rfl
  | cons node above ih =>
    rw [List.map_cons, untilStop, untilStop, (hg node).stops other hother, ih]
    split <;> rfl

theorem ofKind_map (isList : Bool) (line : List TypeNode) :
    ofKind other isList (line.map g) = (ofKind other isList line).map g := by
  induction line with
  | nil => rfl
  | cons node above ih =>
    have hrule := ruleAlong_map hg hother (node :: above)
    rw [List.map_cons] at hrule
    rw [List.map_cons, ofKind, ofKind, hrule, ih]
    split <;> rfl

theorem gathered_map (isList : Bool) (line : List TypeNode) :
    gathered other isList (line.map g) = gathered other isList line := by
  have hheld : ∀ node, held other (g node) = held other node := fun node => (hg node).held other hother
  rw [gathered, gathered, untilStop_map hg hother]
  cases isList with
  | true =>
    rw [if_pos rfl, if_pos rfl, ← List.map_reverse, List.flatMap_map]
    simp only [hheld]
  | false =>
    rw [if_neg Bool.false_ne_true, if_neg Bool.false_ne_true, List.findSome?_map]
    simp only [Function.comp_def, hheld]

end

theorem get_eq (h : Hierarchy) (type attr : String) : h.get type attr =
    if h.contains type then
      match ruleAlong attr (h.lineage type) with
      | some rule => .ok (rule.finish (gathered attr rule.isList (h.lineage type)))
      | none => .error (Error.unknownAttribute type attr)
    else .error (Error.unknownFilterType type) := by
  cases htype : h.contains type with
  | false => exact get_of_not_contains (by simp [htype]) attr
  | true =>
    cases hrule : ruleAlong attr (h.lineage type) with
    | none => exact get_of_ruleAlong_eq_none htype hrule
    | some rule => exact get_of_ruleAlong hrule

theorem Ordered.frozen_eq {h : Hierarchy} (hh : h.Ordered) (type attr : String) :
    (h.freeze.get? type).map (·.get? attr) =
      if h.contains type then
        some ((ruleAlong attr (h.lineage type)).map fun rule =>
          rule.finish (gathered attr rule.isList (ofKind attr rule.isList (h.lineage type))))
      else none := by
  cases hget : h.freeze.get? type with
  | none =>
    rw [if_neg ((freeze_get?_eq_none_iff h type).mp hget)]
    rfl
  | some frozen =>
    have htype : h.contains type = true := by
      by_contra hnot
      rw [(freeze_get?_eq_none_iff h type).mpr hnot] at hget
      cases hget
    have hnodup : ∀ node ∈ h.lineage type, node.rules.names.Nodup := fun node hmem =>
      hh.rules_nodup node (mem_of_mem_lineageIn hmem)
    rw [if_pos htype, Option.map_some, get?_of_freeze hnodup hget]

theorem Ordered.sameAttribute {h : Hierarchy} (hh : h.Ordered) {attr other : String}
    {f : TypeNode → TypeNode} (hf : ∀ node, Touches attr node (f node)) (hother : other ≠ attr)
    (name type : String) : SameAttribute h (h.withNode name f) type other := by
  have hg := touches_withNode hf name
  have hline := lineage_withNode hf h name type
  have hcontains : (h.withNode name f).contains type = h.contains type :=
    contains_congr (by rw [hline, List.map_eq_nil_iff])
  have hrule := ruleAlong_map hg hother (h.lineage type)
  have hgathered := fun isList => gathered_map hg hother isList (h.lineage type)
  have hofKind : ∀ isList, gathered other isList (ofKind other isList ((h.lineage type).map _))
      = gathered other isList (ofKind other isList (h.lineage type)) := fun isList => by
    rw [ofKind_map hg hother, gathered_map hg hother]
  constructor
  · rw [get_eq, get_eq, hcontains, hline, hrule]
    simp only [hgathered]
  · rw [(hh.withNode hf name).frozen_eq, hh.frozen_eq, hcontains, hline, hrule]
    simp only [hofKind]

/-! Types beside and above. -/

theorem Ordered.not_isBelow_of_ancestor {h : Hierarchy} (hh : h.Ordered) {name type : String}
    (hne : type ≠ name) (habove : h.IsBelow name type) : ¬h.IsBelow type name := fun hbelow =>
  hne (hh.isBelow_antisymm hbelow habove)

theorem Ordered.not_isBelow_of_sibling {h : Hierarchy} (hh : h.Ordered) {name type : String}
    (hne : type ≠ name) (hsame : h.parent? type = h.parent? name) : ¬h.IsBelow type name := by
  intro hbelow
  rcases Relation.ReflTransGen.cases_head hbelow with heq | ⟨parent, hp, hrest⟩
  · exact hne heq
  · -- the parent of both would be below one of them
    have hlt := (hh.parent_before (hsame.symm.trans hp)).2
    rcases hh.eq_or_idxOf_lt hrest with rfl | hgt
    · exact Nat.lt_irrefl _ hlt
    · exact Nat.lt_asymm hlt hgt

/-- A refused call changes nothing, a new type nothing about the others. What is done to an attribute of
a type changes nothing about types outside its subtree, such as its ancestors and those beside it, and
nothing about other attributes. -/
theorem frame_of_grown {h : Hierarchy} (hh : Grown h) :
    (∀ (call : Call) (error : Error) (left : Hierarchy), call.perform h = .error error left →
      ∀ type, SameType h left type) ∧
    (∀ (name : String) (parent : Option String) (next : Hierarchy),
      (Call.addType name parent).perform h = .ok () next →
      ∀ type, h.contains type = true → SameType h next type) ∧
    ∀ (name attr : String) (w : Write) (next : Hierarchy),
      (Call.write name attr w).perform h = .ok () next →
      (∀ type, ¬h.IsBelow type name → SameType h next type) ∧
      (∀ type other, other ≠ attr → SameAttribute h next type other) ∧
      ∀ type, type ≠ name → h.IsBelow name type ∨ h.parent? type = h.parent? name →
        SameType h next type := by
  have hordered := hh.ordered
  refine ⟨?_, ?_, ?_⟩
  · intro call error left hrun type
    rw [call.eq_of_perform_error hrun]
    exact sameType_of_lineage rfl
  · intro name parent next hrun type htype
    have hadd : h.addType name parent = .ok next := Call.result_of_perform hrun
    exact sameType_of_lineage (lineage_of_addType hadd htype)
  · intro name attr w next hrun
    obtain ⟨f, hf, -, rfl⟩ := w.exists_touches (Call.result_of_perform hrun)
    have houtside : ∀ type, ¬h.IsBelow type name → SameType h (h.withNode name f) type :=
      fun type hnot => sameType_of_lineage (hordered.lineage_of_not_isBelow hf hnot)
    refine ⟨houtside, fun type other hother => hordered.sameAttribute hf hother name type, ?_⟩
    rintro type hne (habove | hbeside)
    · exact houtside type (hordered.not_isBelow_of_ancestor hne habove)
    · exact houtside type (hordered.not_isBelow_of_sibling hne hbeside)

def labelledCalls : List Call := [
  .addType "cost" none, .addType "time" (some "cost"), .addType "material" (some "cost"),
  .addType "overtime" (some "time"), .write "cost" "label" (.declare { isList := true }),
  .write "cost" "label" (.set [.int 1])]

def labelled : Hierarchy := empty.afterAll labelledCalls

theorem grown_labelled : Grown labelled := Grown.empty.calls labelledCalls

theorem frame_of_labelled :
    (∃ error left, (Call.write "time" "note" (.set [.int 2])).perform labelled = .error error left ∧
      ∀ type, SameType labelled left type) ∧
    (∃ next, (Call.addType "travel" (some "cost")).perform labelled = .ok () next ∧
      SameType labelled next "overtime") ∧
    ∃ next, (Call.write "time" "label" (.set [.int 2])).perform labelled = .ok () next ∧
      SameType labelled next "cost" ∧ SameType labelled next "material" ∧
      SameAttribute labelled next "overtime" "note" ∧
      next.get "overtime" "label" = .ok (.list [.int 1, .int 2]) := by
  obtain ⟨hrefused, hadded, hwritten⟩ := frame_of_grown grown_labelled
  refine ⟨?_, ?_, ?_⟩
  · have hrun : (Call.write "time" "note" (.set [.int 2])).perform labelled
        = .error (Error.unknownAttribute "time" "note") labelled := rfl
    exact ⟨_, _, hrun, hrefused _ _ _ hrun⟩
  · have hrun : (Call.addType "travel" (some "cost")).perform labelled
        = .ok () ((Call.addType "travel" (some "cost")).after labelled) := rfl
    exact ⟨_, hrun, hadded _ _ _ hrun "overtime" rfl⟩
  · have hrun : (Call.write "time" "label" (.set [.int 2])).perform labelled
        = .ok () ((Call.write "time" "label" (.set [.int 2])).after labelled) := rfl
    obtain ⟨-, hother, hbeside⟩ := hwritten _ _ _ _ hrun
    exact ⟨_, hrun, hbeside "cost" (by decide) (.inl (.single rfl)),
      hbeside "material" (by decide) (.inr rfl), hother "overtime" "note" (by decide), rfl⟩

end ReportFilters.Hierarchy
