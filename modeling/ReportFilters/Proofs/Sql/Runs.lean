import ReportFilters.Proofs.Chain.Composition
import ReportFilters.Proofs.Fragment.Places
import ReportFilters.Proofs.Sql.Grouping

/-! Whole runs of calls. What a statement holds after any calls, refused ones among them, can be read
off the calls: the columns, each needed join once, and the accepted conditions with their parameters,
numbered on from those accepted before. -/

namespace ReportFilters

theorem mapIdx_take_concat (f : List α → α → β) (l : List α) (a : α) :
    ((l ++ [a]).mapIdx fun k b => f ((l ++ [a]).take k) b)
      = (l.mapIdx fun k b => f (l.take k) b) ++ [f l a] := by
  rw [List.mapIdx_append, List.mapIdx_singleton, Nat.zero_add, List.take_left]
  congr 1
  apply List.ext_getElem?
  intro k
  rw [List.getElem?_mapIdx, List.getElem?_mapIdx]
  refine Option.map_congr fun b hb => ?_
  obtain ⟨hk, _⟩ := List.getElem?_eq_some_iff.mp hb
  rw [List.take_append_of_le_length hk.le]

namespace Statement
open Fragment

namespace Call

def column? : Call → Option String
  | .select column => some column
  | _ => none

def join? : Call → Option Join
  | .join j => some j
  | _ => none

def condition? : Call → Option Predicate
  | .predicate fragment params =>
    if markersBefore none fragment.toList fragment.toList.length = params.length then
      some ⟨fragment, params⟩
    else none
  | _ => none

end Call

def selected (calls : List Call) : List String := calls.filterMap Call.column?

def requested (calls : List Call) : List Join := calls.filterMap Call.join?

def accepted (calls : List Call) : List Predicate := calls.filterMap Call.condition?

theorem selected_concat (calls : List Call) (call : Call) :
    selected (calls ++ [call]) = selected calls ++ call.column?.toList := by
  cases hcall : call.column? <;> simp [selected, hcall]

theorem requested_concat (calls : List Call) (call : Call) :
    requested (calls ++ [call]) = requested calls ++ call.join?.toList := by
  cases hcall : call.join? <;> simp [requested, hcall]

theorem accepted_concat (calls : List Call) (call : Call) :
    accepted (calls ++ [call]) = accepted calls ++ call.condition?.toList := by
  cases hcall : call.condition? <;> simp [accepted, hcall]

def boundBy (conditions : List Predicate) : List Value := conditions.flatMap Predicate.params

theorem boundBy_append (below above : List Predicate) :
    boundBy (below ++ above) = boundBy below ++ boundBy above := List.flatMap_append

def markedAfter (dialect : Dialect) (below : List Predicate) (p : Predicate) : String :=
  String.ofList (marked dialect.placeholder ((boundBy below).length + 1) none p.fragment.toList)

structure Recorded (table : String) (dialect : Dialect) (calls : List Call) (s : Statement) : Prop where
  table_eq : s.table = table
  dialect_eq : s.dialect = dialect
  columns_eq : s.columns = selected calls
  joins_eq : s.joins = joinsNeeded table (requested calls)
  params_eq : s.params = boundBy (accepted calls)
  predicates_eq : s.predicates =
    (accepted calls).mapIdx fun k p => markedAfter dialect ((accepted calls).take k) p

/-- How a call is answered after others: of a join, whether it is needed and asked for the first time,
and of a condition, whether there are as many parameters as markers. -/
def Answers (table : String) (before : List Call) (reply : Except Failure Bool) : Call → Prop
  | .select _ => reply = .ok true
  | .join join => reply = .ok (decide (join.table ≠ table ∧ join ∉ requested before))
  | .predicate fragment params =>
    if markersBefore none fragment.toList fragment.toList.length = params.length then reply = .ok true
    else reply = .error (Predicate.mismatch ⟨fragment, params⟩)

theorem isMatched_iff (p : Predicate) :
    p.isMatched ↔ markersBefore none p.fragment.toList p.fragment.toList.length = p.params.length := by
  rw [Predicate.isMatched, decide_eq_true_eq, markerCount_eq]

theorem perform_eq (s : Statement) (call : Call) : (s.perform call).2 =
    { s with
      columns := s.columns ++ call.column?.toList
      joins := (s.withJoins call.join?.toList).joins
      predicates := s.predicates ++ call.condition?.toList.map fun p => s.numbered p.fragment
      params := s.params ++ boundBy call.condition?.toList } := by
  cases call with
  | select column => simp [perform, select, Call.column?, Call.join?, Call.condition?, boundBy]
  | join join =>
    have hsame : SameButJoins s (s.addJoin join) := s.sameButJoins_withJoins [join]
    obtain ⟨hdialect, htable, hcolumns, hpredicates, hparams⟩ := hsame
    simp only [perform, Call.column?, Call.join?, Call.condition?, boundBy, withJoins, Option.toList_none,
      Option.toList_some, List.map_nil, List.flatMap_nil, List.append_nil, List.foldl_cons, List.foldl_nil,
      ← hdialect, ← htable, ← hcolumns, ← hpredicates, ← hparams]
  | predicate fragment params =>
    rw [perform_predicate s ⟨fragment, params⟩]
    by_cases hp : (Predicate.mk fragment params).isMatched
    · rw [if_pos hp, Call.condition?, if_pos ((isMatched_iff _).mp hp)]
      simp [Call.column?, Call.join?, boundBy, withPredicate]
    · rw [if_neg hp, Call.condition?, if_neg (mt (isMatched_iff _).mpr hp)]
      simp [Call.column?, Call.join?, boundBy]

section
variable {table : String} {dialect : Dialect} {calls : List Call} {s : Statement}

theorem recorded_empty : Recorded table dialect [] (empty table dialect) :=
  ⟨rfl, rfl, rfl, rfl, rfl, rfl⟩

theorem Recorded.numbered_eq (h : Recorded table dialect calls s) (p : Predicate) :
    s.numbered p.fragment = markedAfter dialect (accepted calls) p := by
  rw [numbered, markedAfter, h.dialect_eq, h.params_eq, number_eq_marked]

theorem Recorded.perform (h : Recorded table dialect calls s) (call : Call) :
    Recorded table dialect (calls ++ [call]) (s.perform call).2 := by
  have hjoins : s.joins = joinsNeeded s.table (requested calls) := by
    rw [h.table_eq]
    exact h.joins_eq
  rw [perform_eq]
  refine ⟨h.table_eq, h.dialect_eq, ?_, ?_, ?_, ?_⟩
  · rw [selected_concat, ← h.columns_eq]
  · rw [requested_concat, ← h.table_eq]
    exact joins_withJoins hjoins call.join?.toList
  · rw [accepted_concat, boundBy_append, ← h.params_eq]
  · rw [accepted_concat]
    cases call.condition? with
    | none => simpa using h.predicates_eq
    | some p =>
      rw [Option.toList_some, mapIdx_take_concat, ← h.predicates_eq, List.map_singleton, h.numbered_eq]

theorem Recorded.answers (h : Recorded table dialect calls s) (call : Call) :
    Answers table calls (s.perform call).1 call := by
  cases call with
  | select column => rfl
  | join join =>
    rw [Answers, Statement.perform, wantsJoin, h.table_eq, h.joins_eq, joinsNeeded]
    by_cases htable : join.table = table <;> simp [htable]
  | predicate fragment params =>
    rw [perform_predicate s ⟨fragment, params⟩, Answers]
    by_cases hp : (Predicate.mk fragment params).isMatched
    · rw [if_pos hp, if_pos ((isMatched_iff _).mp hp)]
    · rw [if_neg hp, if_neg (mt (isMatched_iff _).mpr hp)]

end

theorem performAll_cons (s : Statement) (call : Call) (rest : List Call) : s.performAll (call :: rest) =
    ((s.perform call).1 :: ((s.perform call).2.performAll rest).1,
      ((s.perform call).2.performAll rest).2) := rfl

theorem performAll_append (s : Statement) (calls more : List Call) : s.performAll (calls ++ more) =
    ((s.performAll calls).1 ++ ((s.performAll calls).2.performAll more).1,
      ((s.performAll calls).2.performAll more).2) := by
  induction calls generalizing s with
  | nil => rfl
  | cons call rest ih =>
    rw [List.cons_append, performAll_cons, ih, performAll_cons, List.cons_append]

theorem length_performAll (s : Statement) (calls : List Call) :
    (s.performAll calls).1.length = calls.length := by
  induction calls generalizing s with
  | nil => rfl
  | cons call rest ih => exact congrArg (· + 1) (ih (s.perform call).2)

theorem recorded_performAll (table : String) (dialect : Dialect) (calls : List Call) :
    Recorded table dialect calls ((empty table dialect).performAll calls).2 := by
  induction calls using List.reverseRecOn with
  | nil => exact recorded_empty
  | append_singleton calls call ih =>
    rw [performAll_append]
    exact ih.perform call

theorem perform_of_error {s : Statement} {call : Call} {failure : Failure}
    (h : (s.perform call).1 = .error failure) : (s.perform call).2 = s := by
  cases call with
  | select column => cases h
  | join join => cases h
  | predicate fragment params =>
    rw [perform_predicate s ⟨fragment, params⟩] at h ⊢
    split at h
    · cases h
    · rw [if_neg ‹_›]

/-- What a run of calls leaves, and how each of them is answered. A condition is refused exactly if it
has not as many parameters as markers, and a refused call changes nothing. The statement has the selected
columns, each needed join once in the order of the first requests, and the accepted conditions with their
parameters one after the other; in each condition the markers, and nothing else, have become the marks
that follow those of the parameters before. -/
theorem recorded_of_performAll (table : String) (dialect : Dialect) (calls : List Call) :
    let start := empty table dialect
    Recorded table dialect calls (start.performAll calls).2 ∧
      (start.performAll calls).1.length = calls.length ∧
      ∀ before call after, calls = before ++ call :: after →
        ∃ reply, (start.performAll calls).1[before.length]? = some reply ∧
          Answers table before reply call ∧
          ∀ failure, reply = .error failure →
            (start.performAll (before ++ [call])).2 = (start.performAll before).2 := by
  intro start
  refine ⟨recorded_performAll table dialect calls, length_performAll start calls, ?_⟩
  rintro before call after rfl
  refine ⟨((start.performAll before).2.perform call).1, ?_,
    (recorded_performAll table dialect before).answers call, fun failure herror => ?_⟩
  · rw [performAll_append, List.getElem?_append_right (length_performAll ..).le, length_performAll,
      Nat.sub_self]
    rfl
  · rw [performAll_append]
    exact perform_of_error herror

end Statement
end ReportFilters
