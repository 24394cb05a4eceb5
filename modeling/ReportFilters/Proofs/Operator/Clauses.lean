import ReportFilters.Operator.Basic
import ReportFilters.Proofs.Operator.Conditions
import ReportFilters.Proofs.Sql.Names
import ReportFilters.Proofs.Steps

/-! What an operator does to a statement. An operator with a clause appends one condition, which
hangs on the dialect, the column, the values and the clock but not on what the statement already
holds. Every built-in operator has one. -/

namespace ReportFilters

namespace Statement

def withPredicate (s : Statement) (p : Predicate) : Statement :=
  { s with predicates := s.predicates ++ [s.numbered p.fragment], params := s.params ++ p.params }

@[simp] theorem dialect_withPredicate (s : Statement) (p : Predicate) :
    (s.withPredicate p).dialect = s.dialect := rfl

@[simp] theorem table_withPredicate (s : Statement) (p : Predicate) :
    (s.withPredicate p).table = s.table := rfl

@[simp] theorem columns_withPredicate (s : Statement) (p : Predicate) :
    (s.withPredicate p).columns = s.columns := rfl

@[simp] theorem joins_withPredicate (s : Statement) (p : Predicate) :
    (s.withPredicate p).joins = s.joins := rfl

@[simp] theorem predicates_withPredicate (s : Statement) (p : Predicate) :
    (s.withPredicate p).predicates = s.predicates ++ [s.numbered p.fragment] := rfl

@[simp] theorem params_withPredicate (s : Statement) (p : Predicate) :
    (s.withPredicate p).params = s.params ++ p.params := rfl

def append (s : Statement) : Except Failure Predicate → EStateM.Result Failure Statement Unit
  | .ok p => .ok () (s.withPredicate p)
  | .error failure => .error failure s

theorem exists_of_append_eq_ok {s t : Statement} {result : Except Failure Predicate}
    (h : s.append result = .ok () t) : ∃ p, result = .ok p ∧ t = s.withPredicate p := by
  cases result with
  | error failure => cases h
  | ok p =>
    cases h
    exact ⟨p, rfl, rfl⟩

theorem eq_of_append_eq_error {s t : Statement} {result : Except Failure Predicate} {failure : Failure}
    (h : s.append result = .error failure t) : t = s := by
  cases result <;> cases h
  rfl

end Statement

namespace Predicate

def isMatched (p : Predicate) : Bool :=
  Fragment.markerCount none p.fragment.toList = p.params.length

def mismatch (p : Predicate) : Failure :=
  .error {
    cause := .markerMismatch (Fragment.markerCount none p.fragment.toList) p.params.length
    sql := some p.fragment }

def matched (p : Predicate) : Except Failure Predicate :=
  if p.isMatched then .ok p else .error p.mismatch

end Predicate

namespace Statement

theorem addPredicate_run (p : Predicate) (s : Statement) :
    addPredicate p.fragment p.params s = s.append p.matched := by
  by_cases h : Fragment.markerCount none p.fragment.toList = p.params.length
  · have hm : p.isMatched = true := decide_eq_true h
    rw [addPredicate, if_neg (not_not_intro h), Predicate.matched, if_pos hm]
    rfl
  · have hm : p.isMatched ≠ true := fun e => h (of_decide_eq_true e)
    rw [addPredicate, if_pos h, Predicate.matched, if_neg hm]
    rfl

end Statement

abbrev Clause := Dialect → String → List Value → Clock → Except Failure Predicate

namespace Operator

/-- Without a look at the column or the number of values. -/
def body : Operator → String → List Value → Clock → Assembly Unit
  | builtin op => op.contribute
  | custom op => op.contributor

def check : Operator → List Value → List Complaint
  | builtin op => op.complaints
  | custom op => op.complaints

@[simp] theorem arity_builtin (op : Builtin) : (builtin op).arity = op.arity := rfl

@[simp] theorem prepare_builtin (op : Builtin) (values : List Value) :
    (builtin op).prepare values = op.arity.prepare values := rfl

@[simp] theorem check_builtin (op : Builtin) (values : List Value) :
    (builtin op).check values = op.complaints values := rfl

@[simp] theorem body_builtin (op : Builtin) : (builtin op).body = op.contribute := rfl

theorem complaints_eq_check (op : Operator) (values : List Value) : op.complaints values =
    if op.arity.isMetBy (op.prepare values).length then op.check (op.prepare values)
    else [.count op.token op.arity (op.prepare values).length] := by
  cases op <;> rfl

theorem contribute_eq_body (op : Operator) (column : String) (values : List Value) (clock : Clock) :
    op.contribute column values clock =
      if column.isEmpty then pure ()
      else if op.arity.isMetBy (op.prepare values).length then
        op.body column (op.prepare values) clock
      else throw (.error (Error.arityMismatch op.token op.arity.text (op.prepare values).length)) := by
  cases op <;> rfl

def Appends (op : Operator) (clause : Clause) : Prop :=
  ∀ column values clock s, op.body column values clock s =
    match clause s.dialect column values clock with
    | .ok p => Statement.addPredicate p.fragment p.params s
    | .error failure => .error failure s

def outcome (op : Operator) (clause : Clause) (dialect : Dialect) (column : String)
    (values : List Value) (clock : Clock) : Except Failure Predicate :=
  let prepared := op.prepare values
  if op.arity.isMetBy prepared.length then
    clause dialect column prepared clock >>= Predicate.matched
  else .error (.error (Error.arityMismatch op.token op.arity.text prepared.length))

theorem outcome_eq_ok {op : Operator} {clause : Clause} {dialect : Dialect} {column : String}
    {values : List Value} {clock : Clock} {p : Predicate}
    (h : op.outcome clause dialect column values clock = .ok p) :
    op.arity.isMetBy (op.prepare values).length ∧ p.isMatched ∧
      clause dialect column (op.prepare values) clock = .ok p := by
  rw [outcome] at h
  split at h
  · obtain ⟨q, hq, hmatched⟩ := exists_of_bind_eq_ok h
    rw [Predicate.matched] at hmatched
    split at hmatched
    · cases hmatched
      exact ⟨‹_›, ‹_›, hq⟩
    · cases hmatched
  · cases h

theorem contribute_run {op : Operator} {clause : Clause} (h : op.Appends clause) {column : String}
    (hcol : column ≠ "") (values : List Value) (clock : Clock) (s : Statement) :
    op.contribute column values clock s
      = s.append (op.outcome clause s.dialect column values clock) := by
  have hempty : ¬column.isEmpty = true := by simpa using hcol
  rw [contribute_eq_body, if_neg hempty]
  by_cases hmet : op.arity.isMetBy (op.prepare values).length = true
  · rw [if_pos hmet, h, outcome, if_pos hmet]
    cases clause s.dialect column (op.prepare values) clock with
    | error failure => rfl
    | ok p => exact Statement.addPredicate_run p s
  · rw [if_neg hmet, outcome, if_neg hmet]
    rfl

end Operator

namespace Builtin

def clause (op : Builtin) : Clause := fun dialect column values clock =>
  if clock.hasToday then
    (op.predicate (dialect.quoteQualified column) values clock).mapError (·.failure op.token)
  else .error .offCalendar

theorem appends (op : Builtin) : (Operator.builtin op).Appends op.clause := by
  intro column values clock s
  rw [Operator.body_builtin, contribute, clause, bind_apply, get_apply]
  dsimp only
  cases clock.hasToday with
  | false => rfl
  | true => cases op.predicate (s.dialect.quoteQualified column) values clock <;> rfl

theorem clause_eq_ok_iff {op : Builtin} {dialect : Dialect} {column : String} {values : List Value}
    {clock : Clock} {p : Predicate} :
    op.clause dialect column values clock = .ok p ↔
      clock.hasToday = true ∧ op.predicate (dialect.quoteQualified column) values clock = .ok p := by
  rw [clause]
  cases clock.hasToday <;> simp

theorem shape_of_clause {op : Builtin} {dialect : Dialect} {column : String} {values : List Value}
    {clock : Clock} {p : Predicate} (hmet : op.arity.isMetBy values.length)
    (h : op.clause dialect column values clock = .ok p) : Shape (dialect.quoteQualified column) p :=
  shape_of_predicate hmet (clause_eq_ok_iff.mp h).2

theorem tidy_of_clause {op : Builtin} {dialect : Dialect} {column : String} {values : List Value}
    {clock : Clock} {p : Predicate} (hmet : op.arity.isMetBy values.length)
    (h : op.clause dialect column values clock = .ok p) :
    Fragment.Tidy p.fragment.toList p.params.length :=
  (shape_of_clause hmet h).tidy (dialect.bare_quoteQualified column)

def condition (op : Builtin) (dialect : Dialect) (column : String) (values : List Value)
    (clock : Clock) : Except Failure Predicate :=
  (Operator.builtin op).outcome op.clause dialect column values clock

theorem contribute_condition (op : Builtin) {column : String} (hcol : column ≠ "")
    (values : List Value) (clock : Clock) (s : Statement) :
    (Operator.builtin op).contribute column values clock s
      = s.append (op.condition s.dialect column values clock) :=
  Operator.contribute_run op.appends hcol values clock s

theorem outcome_of_isMetBy {op : Builtin} {values : List Value}
    (hmet : op.arity.isMetBy (op.arity.prepare values).length) (dialect : Dialect) (column : String)
    (clock : Clock) : (Operator.builtin op).outcome op.clause dialect column values clock =
      op.clause dialect column (op.arity.prepare values) clock := by
  rw [Operator.outcome, Operator.prepare_builtin, Operator.arity_builtin, if_pos hmet]
  cases hp : op.clause dialect column (op.arity.prepare values) clock with
  | error failure => rfl
  | ok p =>
    have hmatched : p.isMatched = true := decide_eq_true (tidy_of_clause hmet hp).count_eq
    rw [ok_bind, Predicate.matched, if_pos hmatched]

end Builtin
end ReportFilters
