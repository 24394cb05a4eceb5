import Mathlib.Data.List.Forall2
import ReportFilters.Proofs.Operator.Clauses

/-! Marks and parameters of a statement. As long as every condition was tidy when it was added, a
reader of the whole text finds the marks of the parameters in the order in which they are bound,
and nothing else in the text looks like a mark. -/

namespace ReportFilters

theorem Fragment.Reads.intercalate {separator : String} (hsep : Fragment.Bare separator.toList)
    {texts : List String} {found : List (List (List Char))}
    (h : List.Forall₂ (fun s f => Fragment.Reads s.toList f) texts found) :
    Fragment.Reads (separator.intercalate texts).toList found.flatten := by
  induction h with
  | nil =>
    have hnil : Fragment.Bare [] := by decide
    simpa using hnil.reads
  | @cons s f rest more hs hrest ih =>
    cases rest with
    | nil =>
      cases hrest
      simpa using hs
    | cons t rest =>
      rw [String.intercalate_cons_cons, String.toList_append, String.toList_append]
      simpa using (hs.append hsep.reads).append ih

namespace Statement
open Fragment

def Aligned (s : Statement) : Prop :=
  ∃ found, List.Forall₂ (fun p f => Reads p.toList f) s.predicates found ∧
    found.flatten = placeholders s.dialect 1 s.params.length

theorem aligned_empty (table : String) (dialect : Dialect) : Aligned (empty table dialect) :=
  ⟨[], .nil, rfl⟩

theorem Aligned.withPredicate {s : Statement} (h : Aligned s) {p : Predicate}
    (hp : Tidy p.fragment.toList p.params.length) : Aligned (s.withPredicate p) := by
  obtain ⟨found, hfound, hflat⟩ := h
  have hread := hp.number s.dialect (s.params.length + 1)
  refine ⟨found ++ [placeholders s.dialect (s.params.length + 1) p.params.length], ?_, ?_⟩
  · refine List.rel_append hfound (.cons ?_ .nil)
    simpa only [numbered, String.toList_ofList] using hread
  · rw [List.flatten_append, hflat, List.flatten_singleton, Nat.add_comm s.params.length,
      placeholders_append, Statement.withPredicate, List.length_append]

theorem reads_grouped (s : Statement) {text : String} {found : List (List Char)}
    (h : Reads text.toList found) : Reads (s.grouped text).toList found := by
  unfold grouped
  split
  · have hopen : Bare "(".toList := by decide
    have hclose : Bare ")".toList := by decide
    simpa using (hopen.reads.append h).append hclose.reads
  · exact h

theorem bare_selection (s : Statement) : Bare s.selection.toList := by
  unfold selection
  split
  · decide
  · refine intercalate_of_append (P := Bare) (by decide) Tidy.append (by decide) ?_
    intro text htext
    obtain ⟨column, _, rfl⟩ := List.mem_map.mp htext
    exact s.dialect.bare_quoteQualified column

theorem bare_joins (s : Statement) :
    Bare (String.join (s.joins.map fun join => " " ++ join.sql s.dialect)).toList := by
  refine join_of_append (P := Bare) (by decide) Tidy.append ?_
  intro text htext
  obtain ⟨join, _, rfl⟩ := List.mem_map.mp htext
  have hblank : Bare " ".toList := by decide
  simpa using hblank.append (join.bare_sql s.dialect)

theorem Aligned.reads_sql {s : Statement} (h : Aligned s) :
    Reads s.sql.toList (placeholders s.dialect 1 s.params.length) := by
  obtain ⟨found, hfound, hflat⟩ := h
  have hselect : Bare "SELECT ".toList := by decide
  have hfrom : Bare " FROM ".toList := by decide
  have hand : Bare " AND ".toList := by decide
  have hbase := (((hselect.append s.bare_selection).append hfrom).append
    (s.dialect.bare_quoteIdentifier s.table)).append s.bare_joins
  have htext : Reads s.whereText.toList found.flatten := by
    refine Reads.intercalate hand ?_
    rw [List.forall₂_map_left_iff]
    exact hfound.imp fun _ _ => s.reads_grouped
  have hwhere : Reads (if s.predicates = [] then "" else " WHERE " ++ s.whereText).toList
      found.flatten := by
    by_cases hnone : s.predicates = []
    · rw [hnone, List.forall₂_nil_left_iff] at hfound
      rw [if_pos hnone, hfound]
      exact Bare.reads (by decide)
    · have hkeyword : Bare " WHERE ".toList := by decide +kernel
      rw [if_neg hnone, String.toList_append]
      exact hkeyword.reads.append htext
  rw [← hflat]
  simpa only [sql, String.toList_append, List.nil_append] using (Bare.reads hbase).append hwhere

end Statement
end ReportFilters
