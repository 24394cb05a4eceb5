import ReportFilters.Proofs.Fragment.Disjunction
import ReportFilters.Proofs.Operator.Clauses

/-! The same calls on a statement of either dialect. The statements stay alike but for the marks of the
parameters. As it is the numbered condition that is scanned for a disjunction, the dialects may differ
in which conditions they put in parentheses. -/

namespace ReportFilters.Statement
open Fragment

inductive Call where
  | select (column : String)
  | join (join : Join)
  | predicate (fragment : String) (params : List Value)

/-- Whether anything was added, or why the call was refused, and the statement as it then stands. -/
def perform (s : Statement) : Call → Except Failure Bool × Statement
  | .select column => (.ok true, s.select column)
  | .join join => (.ok (s.wantsJoin join), s.addJoin join)
  | .predicate fragment params =>
    match addPredicate fragment params s with
    | .ok _ next => (.ok true, next)
    | .error failure next => (.error failure, next)

def performAll (s : Statement) : List Call → List (Except Failure Bool) × Statement
  | [] => ([], s)
  | call :: rest =>
    let (reply, next) := s.perform call
    let (replies, last) := next.performAll rest
    (reply :: replies, last)

def IsNumbered (condition fragment : String) : Prop :=
  ∃ next, condition = String.ofList
    (number Dialect.postgresql.placeholder next none fragment.toList)

structure SameButMarks (s t : Statement) : Prop where
  dialect : s.dialect = .postgresql
  dialect' : t.dialect = .sqlite
  table : s.table = t.table
  columns : s.columns = t.columns
  joins : s.joins = t.joins
  predicates : List.Forall₂ IsNumbered s.predicates t.predicates
  params : s.params = t.params

theorem perform_predicate (s : Statement) (p : Predicate) :
    s.perform (.predicate p.fragment p.params) =
      if p.isMatched then (.ok true, s.withPredicate p) else (.error p.mismatch, s) := by
  rw [perform, addPredicate_run, Predicate.matched]
  by_cases hmatched : p.isMatched = true
  · rw [if_pos hmatched, if_pos hmatched]
    rfl
  · rw [if_neg hmatched, if_neg hmatched]
    rfl

section
variable {s t : Statement} (h : SameButMarks s t)
include h

theorem SameButMarks.select (column : String) : SameButMarks (s.select column) (t.select column) :=
  ⟨h.dialect, h.dialect', h.table, congrArg (· ++ [column]) h.columns, h.joins, h.predicates, h.params⟩

theorem SameButMarks.wantsJoin (join : Join) : s.wantsJoin join = t.wantsJoin join := by
  rw [Statement.wantsJoin, Statement.wantsJoin, h.table, h.joins]

theorem SameButMarks.addJoin (join : Join) : SameButMarks (s.addJoin join) (t.addJoin join) := by
  rw [Statement.addJoin, Statement.addJoin, h.wantsJoin]
  split
  · exact ⟨h.dialect, h.dialect', h.table, h.columns, congrArg (· ++ [join]) h.joins, h.predicates,
      h.params⟩
  · exact h

theorem SameButMarks.withPredicate (p : Predicate) :
    SameButMarks (s.withPredicate p) (t.withPredicate p) := by
  have hfragment : t.numbered p.fragment = p.fragment := by
    have hmark : ∀ index, Dialect.sqlite.placeholder index = "?" := fun _ => rfl
    rw [numbered, h.dialect', number_question hmark, String.ofList_toList]
  have hnumbered : IsNumbered (s.numbered p.fragment) (t.numbered p.fragment) := by
    rw [hfragment, numbered, h.dialect]
    exact ⟨_, rfl⟩
  exact ⟨h.dialect, h.dialect', h.table, h.columns, h.joins,
    List.rel_append h.predicates (.cons hnumbered .nil), congrArg (· ++ p.params) h.params⟩

theorem SameButMarks.perform (call : Call) :
    (s.perform call).1 = (t.perform call).1 ∧ SameButMarks (s.perform call).2 (t.perform call).2 := by
  cases call with
  | select column => exact ⟨rfl, h.select column⟩
  | join join => exact ⟨congrArg Except.ok (h.wantsJoin join), h.addJoin join⟩
  | predicate fragment params =>
    rw [perform_predicate s ⟨fragment, params⟩, perform_predicate t ⟨fragment, params⟩]
    split
    · exact ⟨rfl, h.withPredicate _⟩
    · exact ⟨rfl, h⟩

theorem SameButMarks.performAll (calls : List Call) :
    (s.performAll calls).1 = (t.performAll calls).1 ∧
      SameButMarks (s.performAll calls).2 (t.performAll calls).2 := by
  induction calls generalizing s t with
  | nil => exact ⟨rfl, h⟩
  | cons call rest ih =>
    obtain ⟨hreply, hnext⟩ := h.perform call
    obtain ⟨hreplies, hlast⟩ := ih hnext
    exact ⟨congrArg₂ List.cons hreply hreplies, hlast⟩

end

def Wraps (s : Statement) (condition : String) : Prop := s.grouped condition = "(" ++ condition ++ ")"

theorem wraps_iff (s : Statement) (condition : String) :
    s.Wraps condition ↔ 1 < s.predicates.length ∧ hasTopLevelOr condition = true := by
  have hne : condition ≠ "(" ++ condition ++ ")" := by
    intro heq
    have hlength := congrArg String.length heq
    rw [String.length_append, String.length_append] at hlength
    have hone : "(".length = 1 := rfl
    omega
  rw [Wraps, grouped]
  by_cases hgroup : (decide (1 < s.predicates.length) && hasTopLevelOr condition) = true
  · rw [if_pos hgroup]
    simpa using hgroup
  · rw [if_neg hgroup]
    exact ⟨fun heq => absurd heq hne, fun hboth => absurd (by simpa using hboth) hgroup⟩

/-- The same calls have the same replies and the same effect but for the marks. A condition stands in
parentheses on both sides or on neither, unless it has company and a disjunction at the top and there
is a marker right before every such disjunction. -/
theorem wraps_iff_of_performAll (table : String) (calls : List Call) :
    let s := ((empty table .postgresql).performAll calls).2
    let t := ((empty table .sqlite).performAll calls).2
    ((empty table .postgresql).performAll calls).1 = ((empty table .sqlite).performAll calls).1 ∧
      s.columns = t.columns ∧ s.joins = t.joins ∧ s.params = t.params ∧
      List.Forall₂ (fun condition fragment => IsNumbered condition fragment ∧
        ((s.Wraps condition ↔ t.Wraps fragment) ↔
          (1 < t.predicates.length → (∃ front, OrAt fragment.toList front) →
            ∃ front, OrAt fragment.toList front ∧ front.getLast? ≠ some '?')))
        s.predicates t.predicates := by
  intro s t
  have hstart : SameButMarks (empty table .postgresql) (empty table .sqlite) :=
    ⟨rfl, rfl, rfl, rfl, rfl, .nil, rfl⟩
  obtain ⟨hreplies, hsame⟩ := hstart.performAll calls
  refine ⟨hreplies, hsame.columns, hsame.joins, hsame.params, hsame.predicates.imp ?_⟩
  rintro condition fragment ⟨next, rfl⟩
  refine ⟨⟨next, rfl⟩, ?_⟩
  rw [wraps_iff, wraps_iff, hasTopLevelOr_number_iff, hasTopLevelOr_iff, hsame.predicates.length_eq]
  have hfewer : (∃ front, OrAt fragment.toList front ∧ front.getLast? ≠ some '?') →
      ∃ front, OrAt fragment.toList front := fun ⟨front, hor, _⟩ => ⟨front, hor⟩
  constructor
  · intro hiff hmany hor
    exact (hiff.mpr ⟨hmany, hor⟩).2
  · intro hfound
    exact ⟨fun ⟨hmany, hor⟩ => ⟨hmany, hfewer hor⟩, fun ⟨hmany, hor⟩ => ⟨hmany, hfound hmany hor⟩⟩

theorem not_wraps_behindMarker :
    let calls : List Call := [.predicate "a = ?or b = ?" [.int 1, .int 2], .predicate "c = ?" [.int 3]]
    let s := ((empty "entries" .postgresql).performAll calls).2
    let t := ((empty "entries" .sqlite).performAll calls).2
    s.predicates = ["a = $1or b = $2", "c = $3"] ∧ t.predicates = ["a = ?or b = ?", "c = ?"] ∧
      s.sql = "SELECT * FROM entries WHERE a = $1or b = $2 AND c = $3" ∧
      t.sql = "SELECT * FROM entries WHERE (a = ?or b = ?) AND c = ?" ∧
      ¬(s.Wraps "a = $1or b = $2" ↔ t.Wraps "a = ?or b = ?") := by
  intro calls s t
  refine ⟨by decide +kernel, by decide +kernel, by decide +kernel, by decide +kernel, ?_⟩
  rw [Wraps, Wraps]
  decide +kernel

end ReportFilters.Statement
