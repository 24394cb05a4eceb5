import Mathlib.Data.List.Perm.Basic
import ReportFilters.Proofs.Chain.Alignment
import ReportFilters.Proofs.FirstOccurrence

/-! Chains compiled filter by filter. Each bound filter has, compiled alone, one condition with its
parameters; in a chain these come one after the other from the bottom up, each condition with its
placeholders raised past the parameters below it. Joins are shared: each is kept where it first
occurs. -/

namespace ReportFilters

namespace Statement

def joinsNeeded (table : String) (joins : List Join) : List Join :=
  (joins.filter fun join => join.table ≠ table).eraseDups

theorem joinsNeeded_perm {table : String} {joins others : List Join} (h : joins.Perm others) :
    (joinsNeeded table joins).Perm (joinsNeeded table others) := by
  unfold joinsNeeded
  rw [List.perm_ext_iff_of_nodup (nodup_eraseDups _) (nodup_eraseDups _)]
  intro join
  simp only [List.mem_eraseDups, List.mem_filter, h.mem_iff]

theorem joins_addJoin {s : Statement} {seen : List Join} (h : s.joins = joinsNeeded s.table seen)
    (join : Join) : (s.addJoin join).joins = joinsNeeded s.table (seen ++ [join]) := by
  unfold addJoin wantsJoin
  rw [joinsNeeded, List.filter_append]
  by_cases htable : join.table = s.table
  · simp [htable, h, joinsNeeded]
  · have hfilter : [join].filter (fun join => decide (join.table ≠ s.table)) = [join] := by
      simp [htable]
    rw [hfilter, eraseDups_concat]
    -- one seen before is a duplicate in the list and already in the statement
    by_cases hin : join ∈ seen <;> simp [htable, hin, h, joinsNeeded]

theorem joins_withJoins {s : Statement} {seen : List Join} (h : s.joins = joinsNeeded s.table seen)
    (joins : List Join) : (s.withJoins joins).joins = joinsNeeded s.table (seen ++ joins) := by
  induction joins generalizing s seen with
  | nil =>
    rw [List.append_nil]
    exact h
  | cons join rest ih =>
    have htable : (s.addJoin join).table = s.table := s.table_withJoins [join]
    have hstep := joins_addJoin h join
    rw [← htable] at hstep
    rw [withJoins_cons, ih hstep, htable, List.append_assoc, List.singleton_append]

theorem joins_withParts {s : Statement} {seen : List Join} (h : s.joins = joinsNeeded s.table seen)
    (parts : List (Filter × Predicate)) :
    (s.withParts parts).joins
      = joinsNeeded s.table (seen ++ parts.flatMap fun part => part.1.type.joins) := by
  induction parts generalizing s seen with
  | nil =>
    rw [List.flatMap_nil, List.append_nil]
    exact h
  | cons part rest ih =>
    let t := (s.withJoins part.1.type.joins).withPredicate part.2
    have hstep : t.joins = joinsNeeded t.table (seen ++ part.1.type.joins) := by
      simpa [t] using joins_withJoins h part.1.type.joins
    simpa [t] using ih hstep

theorem params_withParts (s : Statement) (parts : List (Filter × Predicate)) :
    (s.withParts parts).params = s.params ++ parts.flatMap fun part => part.2.params := by
  induction parts generalizing s with
  | nil => simp
  | cons part rest ih => simp [ih]

def numberedAfter (dialect : Dialect) (below : Nat) (fragment : String) : String :=
  String.ofList (Fragment.number dialect.placeholder (below + 1) none fragment.toList)

/-- One condition for each statement, its own with the placeholders raised past the parameters of
the statements before it, of which there are `below` to start with. -/
inductive Stacked (dialect : Dialect) :
    Nat → List Predicate → List Statement → List String → Prop
  | nil (below : Nat) : Stacked dialect below [] [] []
  | cons {below : Nat} {p : Predicate} {alone : Statement} {ps : List Predicate}
    {above : List Statement} {predicates : List String}
    (hmatched : p.isMatched) (hparams : alone.params = p.params)
    (halone : alone.predicates = [numberedAfter dialect 0 p.fragment])
    (hrest : Stacked dialect (below + p.params.length) ps above predicates) :
    Stacked dialect below (p :: ps) (alone :: above)
      (numberedAfter dialect below p.fragment :: predicates)

def ofPart (table : String) (dialect : Dialect) (part : Filter × Predicate) : Statement :=
  (empty table dialect).withParts [part]

theorem params_ofPart (table : String) (dialect : Dialect) (part : Filter × Predicate) :
    (ofPart table dialect part).params = part.2.params := by
  rw [ofPart, params_withParts]
  simp [empty]

theorem numbered_withJoins (s : Statement) (joins : List Join) (fragment : String) :
    (s.withJoins joins).numbered fragment = numberedAfter s.dialect s.params.length fragment := by
  rw [numbered, dialect_withJoins, params_withJoins, numberedAfter]

theorem stacked_withParts (s : Statement) {parts : List (Filter × Predicate)}
    (h : ∀ part ∈ parts, part.2.isMatched) (table : String) :
    ∃ predicates, (s.withParts parts).predicates = s.predicates ++ predicates ∧
      Stacked s.dialect s.params.length (parts.map Prod.snd) (parts.map (ofPart table s.dialect))
        predicates := by
  induction parts generalizing s with
  | nil => exact ⟨[], (List.append_nil _).symm, .nil _⟩
  | cons part rest ih =>
    let t := (s.withJoins part.1.type.joins).withPredicate part.2
    obtain ⟨predicates, hpredicates, hstacked⟩ :=
      ih t fun part hpart => h part (List.mem_cons_of_mem _ hpart)
    rw [dialect_withPredicate, dialect_withJoins, params_withPredicate, params_withJoins,
      List.length_append] at hstacked
    have hmatched := h part (List.mem_cons_self ..)
    refine ⟨_, ?_, .cons hmatched (params_ofPart table s.dialect part) ?_ hstacked⟩
    · simp [t, hpredicates, numbered_withJoins]
    · simp [ofPart, numbered_withJoins, empty]

end Statement

namespace Chain

def alone (f : Filter) : Chain := empty.prepend .first f

theorem bottomUp_alone (f : Filter) : (alone f).bottomUp = [f] := rfl

theorem assemble_alone {f : Filter} {clause : Filter → Clause} (h : f.operator.Appends (clause f))
    (hb : f.isBound) (hv : f.isValid) (table : String) (dialect : Dialect) (clock : Clock) :
    (alone f).assemble table dialect clock =
      (f.outcome (clause f) dialect clock).map fun p => Statement.ofPart table dialect (f, p) := by
  have happends : ∀ g ∈ (alone f).filters, g.operator.Appends (clause g) := by
    intro g hg
    rwa [List.mem_singleton.mp hg]
  have hvalid : (alone f).isValid := Bool.and_eq_true_iff.mpr ⟨hv, rfl⟩
  rcases assemble_cases happends hvalid table dialect clock with
    ⟨parts, ⟨hfst, hout⟩, hs⟩ | ⟨failure, hs, below, g, above, hsplit, _, _, hout⟩
  · rw [bottomUp_alone, List.filter_cons_of_pos hb, List.filter_nil] at hfst
    obtain ⟨⟨g, p⟩, rfl, hg⟩ := List.map_eq_singleton_iff.mp hfst
    cases hg
    have hp := hout (g, p) (List.mem_singleton_self _)
    rw [hs, hp]
    rfl
  · have hg : g ∈ (alone f).bottomUp := by simp [hsplit]
    rw [bottomUp_alone, List.mem_singleton] at hg
    subst hg
    rw [hs, hout]
    rfl

structure Composed (clause : Filter → Clause) (chain : Chain) (table : String) (dialect : Dialect)
    (clock : Clock) (s : Statement) (alones : List Statement) : Prop where
  frame : s.table = table ∧ s.dialect = dialect ∧ s.columns = []
  alones_eq : List.Forall₂ (fun f a => (alone f).assemble table dialect clock = .ok a)
    (chain.bottomUp.filter Filter.isBound) alones
  params_eq : s.params = alones.flatMap Statement.params
  stacked : ∃ ps, List.Forall₂ (fun f p => f.outcome (clause f) dialect clock = .ok p)
      (chain.bottomUp.filter Filter.isBound) ps ∧
    Statement.Stacked dialect 0 ps alones s.predicates
  joins_eq : s.joins = Statement.joinsNeeded table
    ((chain.bottomUp.filter Filter.isBound).flatMap fun f => f.type.joins)

section
variable {chain : Chain} {clause : Filter → Clause} {clock : Clock}
  (h : ∀ f ∈ chain.filters, f.operator.Appends (clause f)) (hv : chain.isValid)
include h hv

theorem assemble_alone_of_mem {f : Filter} (hf : f ∈ chain.filters) (hb : f.isBound)
    (table : String) (dialect : Dialect) (clock : Clock) :
    (alone f).assemble table dialect clock =
      (f.outcome (clause f) dialect clock).map fun p => Statement.ofPart table dialect (f, p) :=
  assemble_alone (h f hf) hb (List.all_eq_true.mp hv f hf) table dialect clock

theorem composed_of_settled {dialect : Dialect} {parts : List (Filter × Predicate)}
    (hparts : Settled clause dialect clock (chain.bottomUp.filter Filter.isBound) parts)
    (table : String) :
    chain.Composed clause table dialect clock ((Statement.empty table dialect).withParts parts)
      (parts.map (Statement.ofPart table dialect)) := by
  obtain ⟨hfst, hout⟩ := hparts
  have hmem : ∀ part ∈ parts, part.1 ∈ chain.filters ∧ part.1.isBound := by
    intro part hpart
    have hin : part.1 ∈ chain.bottomUp.filter Filter.isBound := by
      rw [← hfst]
      exact List.mem_map_of_mem hpart
    exact ⟨List.mem_reverse.mp (List.mem_of_mem_filter hin), (List.mem_filter.mp hin).2⟩
  have hmatched : ∀ part ∈ parts, part.2.isMatched := fun part hpart =>
    (Filter.outcome_eq_ok (hout part hpart)).2.1
  refine ⟨Statement.frame_withParts _ parts, ?_, ?_, ?_, ?_⟩
  · rw [← hfst, List.forall₂_map_left_iff, List.forall₂_map_right_iff, List.forall₂_same]
    intro part hpart
    obtain ⟨hf, hb⟩ := hmem part hpart
    rw [assemble_alone_of_mem h hv hf hb, hout part hpart]
    rfl
  · rw [Statement.params_withParts, List.flatMap_map]
    simp only [Statement.params_ofPart]
    rfl
  · obtain ⟨predicates, hpredicates, hstacked⟩ :=
      (Statement.empty table dialect).stacked_withParts hmatched table
    rw [hpredicates]
    refine ⟨parts.map Prod.snd, ?_, hstacked⟩
    rw [← hfst, List.forall₂_map_left_iff, List.forall₂_map_right_iff, List.forall₂_same]
    exact hout
  · have hnone : (Statement.empty table dialect).joins = Statement.joinsNeeded table [] := rfl
    rw [Statement.joins_withParts hnone, ← hfst, List.flatMap_map, List.nil_append]
    rfl

theorem composed_of_assemble {table : String} {dialect : Dialect} {s : Statement}
    (hs : chain.assemble table dialect clock = .ok s) :
    ∃ alones, chain.Composed clause table dialect clock s alones := by
  rcases assemble_cases h hv table dialect clock with ⟨parts, hparts, hs'⟩ | ⟨failure, hs', _⟩
  · rw [hs] at hs'
    cases hs'
    exact ⟨_, composed_of_settled h hv hparts table⟩
  · rw [hs] at hs'
    cases hs'

theorem assemble_isOk_iff (table : String) (dialect : Dialect) (clock : Clock) :
    (∃ s, chain.assemble table dialect clock = .ok s) ↔
      ∀ f ∈ chain.filters, f.isBound → ∃ a, (alone f).assemble table dialect clock = .ok a := by
  rcases assemble_cases h hv table dialect clock with
    ⟨parts, hparts, hs⟩ | ⟨failure, hs, below, f, above, hsplit, _, hb, hout⟩
  · refine iff_of_true ⟨_, hs⟩ ?_
    intro f hf hb
    have hin : f ∈ parts.map Prod.fst := by
      rw [hparts.1]
      exact List.mem_filter.mpr ⟨List.mem_reverse.mpr hf, hb⟩
    obtain ⟨part, hpart, rfl⟩ := List.mem_map.mp hin
    rw [assemble_alone_of_mem h hv hf hb, hparts.2 part hpart]
    exact ⟨_, rfl⟩
  · refine iff_of_false ?_ ?_
    · rintro ⟨s, hok⟩
      rw [hs] at hok
      cases hok
    · intro hall
      have hf : f ∈ chain.filters := List.mem_reverse.mp (by simp [hsplit] : f ∈ chain.bottomUp)
      obtain ⟨a, ha⟩ := hall f hf hb
      rw [assemble_alone_of_mem h hv hf hb, hout] at ha
      cases ha

end

theorem Composed.perm {clause : Filter → Clause} {chain other : Chain} {table : String}
    {dialect : Dialect} {clock : Clock} {s t : Statement} {alones others : List Statement}
    (hs : chain.Composed clause table dialect clock s alones)
    (ht : other.Composed clause table dialect clock t others)
    (h : other.filters.Perm chain.filters) :
    others.Perm alones ∧ t.joins.Perm s.joins := by
  have hfs : (other.bottomUp.filter Filter.isBound).Perm (chain.bottomUp.filter Filter.isBound) :=
    ((List.reverse_perm _).trans (h.trans (List.reverse_perm _).symm)).filter _
  constructor
  · -- where a filter stands makes no difference to what it is alone
    obtain ⟨middle, hmiddle, hperm⟩ := List.perm_comp_forall₂ hfs hs.alones_eq
    have hunique : Relator.RightUnique fun f a =>
        (alone f).assemble table dialect clock = .ok a := by
      intro f a b ha hb
      rw [ha] at hb
      exact Except.ok.inj hb
    rw [List.right_unique_forall₂' hunique ht.alones_eq hmiddle]
    exact hperm
  · rw [hs.joins_eq, ht.joins_eq]
    exact Statement.joinsNeeded_perm (hfs.flatMap_right _)

theorem compile_isOk_iff (chain : Chain) (table : String) (dialect : Dialect) (clock : Clock) :
    (∃ q, chain.compile table dialect clock = .ok q) ↔
      ∃ s, chain.assemble table dialect clock = .ok s := by
  constructor
  · rintro ⟨q, hq⟩
    obtain ⟨s, hs, _⟩ := exists_assemble_of_compile hq
    exact ⟨s, hs⟩
  · rintro ⟨s, hs⟩
    exact ⟨s.compiled, compile_of_ok hs⟩

/-- A chain of valid filters, each of which appends one condition, has a query exactly if its bound
filters have one each, and it is composed of these. In another order the same filters have a
query composed of the same statements in that order, with the same joins. -/
theorem compile_composed {chain : Chain} {clause : Filter → Clause}
    (h : ∀ f ∈ chain.filters, f.operator.Appends (clause f)) (hv : chain.isValid)
    (table : String) (dialect : Dialect) (clock : Clock) :
    ((∃ q, chain.compile table dialect clock = .ok q) ↔
      ∀ f ∈ chain.filters, f.isBound → ∃ q, (alone f).compile table dialect clock = .ok q) ∧
    (∀ q, chain.compile table dialect clock = .ok q →
      ∃ s alones, q = s.compiled ∧ chain.Composed clause table dialect clock s alones) ∧
    ∀ other : Chain, other.filters.Perm chain.filters →
      ∀ q, chain.compile table dialect clock = .ok q →
      ∃ q' s t alones others, other.compile table dialect clock = .ok q' ∧
        q = s.compiled ∧ chain.Composed clause table dialect clock s alones ∧
        q' = t.compiled ∧ other.Composed clause table dialect clock t others ∧
        others.Perm alones ∧ t.joins.Perm s.joins := by
  have hiff := assemble_isOk_iff h hv table dialect clock
  refine ⟨?_, ?_, ?_⟩
  · simp only [compile_isOk_iff, hiff]
  · intro q hq
    obtain ⟨s, hs, rfl⟩ := exists_assemble_of_compile hq
    obtain ⟨alones, hcomposed⟩ := composed_of_assemble h hv hs
    exact ⟨s, alones, rfl, hcomposed⟩
  · intro other hperm q hq
    obtain ⟨s, hs, rfl⟩ := exists_assemble_of_compile hq
    obtain ⟨alones, hcomposed⟩ := composed_of_assemble h hv hs
    have happends : ∀ f ∈ other.filters, f.operator.Appends (clause f) := fun f hf =>
      h f (hperm.mem_iff.mp hf)
    have hvalid : other.isValid := List.all_eq_true.mpr fun f hf =>
      List.all_eq_true.mp hv f (hperm.mem_iff.mp hf)
    have hall : ∀ f ∈ other.filters, f.isBound →
        ∃ a, (alone f).assemble table dialect clock = .ok a := fun f hf =>
      hiff.mp ⟨s, hs⟩ f (hperm.mem_iff.mp hf)
    obtain ⟨t, ht⟩ := (assemble_isOk_iff happends hvalid table dialect clock).mpr hall
    obtain ⟨others, hothers⟩ := composed_of_assemble happends hvalid ht
    exact ⟨t.compiled, s, t, alones, others, compile_of_ok ht, rfl, hcomposed, rfl, hothers,
      hcomposed.perm hothers hperm⟩

theorem composed_oddQuery :
    ∃ s alones, oddQuery = s.compiled ∧
      oddlyNamed.Composed (fun f => f.operator.clause) "entries?" .postgresql noon s alones := by
  have happends : ∀ f ∈ oddlyNamed.filters, f.operator.Appends f.operator.clause := fun f hf =>
    (isBuiltin_oddlyNamed f hf).appends
  have hvalid : oddlyNamed.isValid := by decide +kernel
  exact (compile_composed happends hvalid "entries?" .postgresql noon).2.1 oddQuery
    compile_oddlyNamed

end Chain
end ReportFilters
