import Mathlib.Data.List.Forall2
import ReportFilters.Proofs.Condition.Scan
import ReportFilters.Proofs.Operator.Clauses

/-! The meaning of a statement's conditions together. However each of them is written, the text after
the keyword is read as the conjunction of all: what could come apart in the company of others has
parentheses around it. -/

namespace ReportFilters

namespace Condition
open Fragment

theorem Writes.parenthesized {text : List Char} {F : Formula} (h : Writes .disjunction text F) :
    Writes .conjunction ('(' :: (text ++ [')'])) F := by
  obtain ⟨hclosed, hspells⟩ := h
  refine ⟨?_, ?_⟩
  · rw [List.foldl_cons, List.foldl_append]
    have hopen : quoteAfter none '(' = none := by decide
    rw [hopen, hclosed]
    decide
  · rw [tokens_parenthesized hclosed]
    exact .one (.bare (.group hspells))

theorem Writes.conjunction {text : String} {F : Formula} (h : Writes .disjunction text.toList F)
    (hnone : hasTopLevelOr text = false) : Writes .conjunction text.toList F :=
  ⟨h.1, h.2.conjunction_of_not_hasDisj (hasDisj_of_hasTopLevelOr hnone)⟩

theorem Writes.conjoin {text rest : List Char} {F G : Formula} (hF : Writes .conjunction text F)
    (hG : Writes .conjunction rest G) :
    ∃ H, Writes .conjunction (text ++ " AND ".toList ++ rest) H ∧
      ∀ v, H.value v = (F.value v && G.value fun i => v (F.size + i)) := by
  obtain ⟨H, hH, _, hvalue⟩ := hF.2.conjoin hG.2
  refine ⟨H, ⟨?_, ?_⟩, hvalue⟩
  · have hand : " AND ".toList.foldl quoteAfter none = none := by decide
    rw [List.foldl_append, List.foldl_append, hF.1, hand, hG.1]
  · have hand : text ++ " AND ".toList ++ rest = text ++ ' ' :: (['A', 'N', 'D'] ++ ' ' :: rest) := by
      rw [List.append_assoc]
      rfl
    have hword : tokens .start ['A', 'N', 'D'] = [.conj] := by decide
    rw [hand, tokens_blank hF.1, tokens_blank (by decide), hword]
    exact hH

theorem writes_intercalate {texts : List String} {Fs : List Formula} (hne : texts ≠ [])
    (h : List.Forall₂ (fun t F => Writes .conjunction t.toList F) texts Fs) :
    ∃ H, Writes .conjunction (" AND ".intercalate texts).toList H ∧
      ∀ v, H.value v = Formula.allHold v Fs := by
  induction h with
  | nil => exact absurd rfl hne
  | @cons t F rest Gs hF hrest ih =>
    cases hrest with
    | nil => exact ⟨F, by simpa using hF, fun v => (Bool.and_true _).symm⟩
    | @cons u G rest Gs hG hrest =>
      obtain ⟨K, hK, hvalue⟩ := ih (List.cons_ne_nil u rest)
      obtain ⟨H, hH, hand⟩ := hF.conjoin hK
      refine ⟨H, ?_, ?_⟩
      · rw [String.intercalate_cons_cons, String.toList_append, String.toList_append]
        exact hH
      · intro v
        rw [hand, hvalue]
        rfl

end Condition

namespace Statement
open Condition

def withPredicates (s : Statement) (added : List Predicate) : Statement :=
  added.foldl withPredicate s

@[simp] theorem withPredicates_cons (s : Statement) (p : Predicate) (rest : List Predicate) :
    s.withPredicates (p :: rest) = (s.withPredicate p).withPredicates rest := rfl

theorem withPredicates_of_run {added : List Predicate} {s t : Statement}
    (h : (added.forM fun p => addPredicate p.fragment p.params) s = .ok () t) :
    t = s.withPredicates added := by
  induction added generalizing s with
  | nil =>
    cases h
    rfl
  | cons p rest ih =>
    rw [forM_cons_apply, addPredicate_run, Predicate.matched] at h
    split_ifs at h
    · exact ih h
    · cases h

theorem run_of_isMatched {added : List Predicate} (h : ∀ p ∈ added, p.isMatched)
    (s : Statement) :
    (added.forM fun p => addPredicate p.fragment p.params) s = .ok () (s.withPredicates added) := by
  induction added generalizing s with
  | nil => rfl
  | cons p rest ih =>
    rw [forM_cons_apply, addPredicate_run, Predicate.matched, if_pos (h p (List.mem_cons_self ..))]
    exact ih (fun q hq => h q (List.mem_cons_of_mem _ hq)) (s.withPredicate p)

theorem frame_withPredicates (s : Statement) (added : List Predicate) :
    (s.withPredicates added).dialect = s.dialect ∧ (s.withPredicates added).table = s.table ∧
      (s.withPredicates added).columns = s.columns ∧ (s.withPredicates added).joins = s.joins := by
  induction added generalizing s with
  | nil => exact ⟨rfl, rfl, rfl, rfl⟩
  | cons p rest ih => simpa using ih (s.withPredicate p)

theorem predicates_withPredicates (s : Statement) {added : List Predicate} {Fs : List Formula}
    (h : List.Forall₂ (fun p F => Writes .disjunction p.fragment.toList F) added Fs) :
    ∃ texts, (s.withPredicates added).predicates = s.predicates ++ texts ∧
      List.Forall₂ (fun t F => Writes .disjunction t.toList F) texts Fs := by
  induction h generalizing s with
  | nil => exact ⟨[], (List.append_nil _).symm, .nil⟩
  | @cons p F rest Gs hF hrest ih =>
    obtain ⟨texts, htexts, hwrites⟩ := ih (s.withPredicate p)
    refine ⟨s.numbered p.fragment :: texts, ?_, .cons ?_ hwrites⟩
    · rw [withPredicates_cons, htexts, predicates_withPredicate, List.append_assoc, List.singleton_append]
    · rw [numbered, String.toList_ofList]
      exact hF.number s.dialect _

theorem writes_grouped (s : Statement) (hmany : 1 < s.predicates.length) {text : String}
    {F : Formula} (h : Writes .disjunction text.toList F) :
    Writes .conjunction (s.grouped text).toList F := by
  rw [grouped, decide_eq_true hmany, Bool.true_and]
  cases hor : Fragment.hasTopLevelOr text with
  | true => simpa using h.parenthesized
  | false => exact h.conjunction hor

theorem writes_whereText {s : Statement} {Fs : List Formula} (hne : s.predicates ≠ [])
    (h : List.Forall₂ (fun t F => Writes .disjunction t.toList F) s.predicates Fs) :
    ∃ H, Writes .disjunction s.whereText.toList H ∧ ∀ v, H.value v = Formula.allHold v Fs := by
  by_cases hmany : 1 < s.predicates.length
  · -- in company every condition stands on the level of conjunctions
    have hgrouped : List.Forall₂ (fun t F => Writes .conjunction t.toList F)
        (s.predicates.map s.grouped) Fs := by
      rw [List.forall₂_map_left_iff]
      exact h.imp fun _ _ => s.writes_grouped hmany
    obtain ⟨H, hH, hvalue⟩ := writes_intercalate (mt List.map_eq_nil_iff.mp hne) hgrouped
    exact ⟨H, ⟨hH.1, .only hH.2⟩, hvalue⟩
  · -- alone it may keep a disjunction at the top
    have hone : s.predicates.length = 1 := by
      have hpos := List.length_pos_iff.mpr hne
      omega
    obtain ⟨text, htext⟩ := List.length_eq_one_iff.mp hone
    rw [htext] at h
    cases h with
    | @cons _ F _ _ hF hrest =>
      cases hrest
      have hgrouped : s.grouped text = text := by
        rw [grouped, decide_eq_false hmany, Bool.false_and, if_neg Bool.false_ne_true]
      have hwhere : s.whereText = text := by
        rw [whereText, htext, List.map_singleton, hgrouped, String.intercalate_singleton]
      rw [hwhere]
      exact ⟨F, hF, fun v => (Bool.and_true _).symm⟩

theorem sql_withPredicates {s : Statement} (hs : s.predicates = []) {added : List Predicate}
    (hne : (s.withPredicates added).predicates ≠ []) :
    (s.withPredicates added).sql = s.sql ++ " WHERE " ++ (s.withPredicates added).whereText := by
  obtain ⟨hdialect, htable, hcolumns, hjoins⟩ := s.frame_withPredicates added
  rw [sql, sql, if_neg hne, if_pos hs, selection, selection, hdialect, htable, hcolumns, hjoins,
    String.append_empty]
  simp only [String.append_assoc]

/-- Read by precedence, the text after the keyword holds exactly if each of the conditions does. -/
theorem conjunction_of_where {s t : Statement} (hs : s.predicates = []) {added : List Predicate}
    (hne : added ≠ []) {Fs : List Formula}
    (hwrites : List.Forall₂ (fun p F => Writes .disjunction p.fragment.toList F) added Fs)
    (hrun : (added.forM fun p => addPredicate p.fragment p.params) s = .ok () t) :
    t.sql = s.sql ++ " WHERE " ++ t.whereText ∧
      ∃ H, formulaOf? t.whereText.toList = some H ∧ ∀ v, H.value v = Formula.allHold v Fs := by
  rw [withPredicates_of_run hrun]
  obtain ⟨texts, htexts, hall⟩ := s.predicates_withPredicates hwrites
  rw [hs, List.nil_append] at htexts
  have hsome : (s.withPredicates added).predicates ≠ [] := by
    rw [htexts]
    rintro rfl
    cases hall
    cases hwrites
    exact hne rfl
  refine ⟨sql_withPredicates hs hsome, ?_⟩
  rw [← htexts] at hall
  obtain ⟨H, hH, hvalue⟩ := writes_whereText hsome hall
  exact ⟨H, hH.formulaOf?, hvalue⟩

def mixed : List Predicate :=
  [⟨"a = ? OR NOT (b IN (1, 2))", [.int 1]⟩, ⟨"color = 'x or y' and \x22order\x22 = ?", [.int 2]⟩]

theorem writes_mixed :
    List.Forall₂ (fun p F => Writes .disjunction p.fragment.toList F) mixed
      [.or .atom (.not .atom), .and .atom .atom] := by
  let three : List Token := [.other, .other, .other]
  let list : List Token := [.other, .other, .opening, .other, .other, .closing]
  have hthree : Spells .literal three .atom := by
    exact .bare (.atom (by decide) (.other (.other (.other .nil))))
  have hlist : Spells .literal list .atom := by
    exact .bare (.atom (by decide) (.other (.other (.group (.other (.other .nil)) .nil))))
  have hgroup : Spells .literal (.opening :: (list ++ [.closing])) .atom :=
    .bare (.group (.only (.one hlist)))
  have hfirst := Spells.or (.only (.one hthree)) (.one (.not hgroup))
  have hsecond := Spells.only (.and (.one hthree) hthree)
  have htokens : tokens .start "a = ? OR NOT (b IN (1, 2))".toList
      = three ++ .disj :: .neg :: .opening :: (list ++ [.closing]) := by decide +kernel
  have htokens' : tokens .start "color = 'x or y' and \x22order\x22 = ?".toList
      = three ++ .conj :: three := by decide +kernel
  rw [← htokens] at hfirst
  rw [← htokens'] at hsecond
  exact .cons ⟨by decide +kernel, hfirst⟩ (.cons ⟨by decide +kernel, hsecond⟩ .nil)

theorem conjunction_of_mixed :
    ∃ t, (mixed.forM fun p => addPredicate p.fragment p.params) (empty "entries" .postgresql)
        = .ok () t ∧
      t.whereText =
        "(a = $1 OR NOT (b IN (1, 2))) AND color = 'x or y' and \x22order\x22 = $2" ∧
      ∃ H, formulaOf? t.whereText.toList = some H ∧
        ∀ v, H.value v = ((v 0 || !v 1) && ((v 2 && v 3) && true)) := by
  have hmatched : ∀ p ∈ mixed, p.isMatched := by decide +kernel
  have hrun := run_of_isMatched hmatched (empty "entries" .postgresql)
  have hmixed := conjunction_of_where rfl (List.cons_ne_nil _ _) writes_mixed hrun
  exact ⟨_, hrun, by decide +kernel, hmixed.2⟩

end Statement
end ReportFilters
