import ReportFilters.Operator.Builtin
import ReportFilters.Sql.Statement

/-! Operators, built in or supplied by the embedding application. Each sees its values only after
they have been prepared for its arity, and only if enough are left. -/

namespace ReportFilters

structure CustomOperator where
  token : String
  label : String
  arity : Arity
  validator : Option (List Value → Bool)
  contributor : String → List Value → Clock → Assembly Unit

inductive Operator where
  | builtin (op : Builtin)
  | custom (op : CustomOperator)

inductive Complaint where
  | count (token : String) (arity : Arity) (got : Nat)
  | shape (token : String) (expected : Expectation) (value : Value)
  | refused (token : String) (values : List Value)
deriving DecidableEq

namespace Complaint

def message : Complaint → String
  | count token arity got =>
    "`" ++ token ++ "` expects " ++ arity.text ++ " value(s), got " ++ toString got
  | shape token expected value =>
    "`" ++ token ++ "` expects " ++ expected.wording ++ ", got " ++ value.shown
  | refused token values => "`" ++ token ++ "` does not accept " ++ Value.shownList values

end Complaint

namespace ValueFault

def failure (token : String) : ValueFault → Failure
  | missing index =>
    .error (Error.invalidValue token ("value " ++ toString (index + 1) ++ " is missing"))
  | unusable value => .error (Error.invalidValue token ("cannot use " ++ value.shown))
  | outOfRange shift =>
    .error (Error.invalidValue token (toString shift ++ " days is out of range"))
  | offCalendar => .offCalendar

end ValueFault

namespace Builtin

def complaints (op : Builtin) (values : List Value) : List Complaint :=
  match op.expectation? with
  | none => []
  | some expected =>
    (values.filter fun v => !expected.accepts v).map (.shape op.token expected)

/-- The calendar day is looked up first, also for an operator that makes no use of it. -/
def contribute (op : Builtin) (column : String) (values : List Value) (clock : Clock) :
    Assembly Unit := do
  let s ← get
  if !clock.hasToday then throw .offCalendar
  match op.predicate (s.dialect.quoteQualified column) values clock with
  | .ok p => Statement.addPredicate p.fragment p.params
  | .error fault => throw (fault.failure op.token)

end Builtin

namespace CustomOperator

def complaints (op : CustomOperator) (values : List Value) : List Complaint :=
  match op.validator with
  | none => []
  | some accepts => if accepts values then [] else [.refused op.token values]

end CustomOperator

namespace Operator

def token : Operator → String
  | builtin op => op.token
  | custom op => op.token

def label : Operator → String
  | builtin op => op.label
  | custom op => op.label

def arity : Operator → Arity
  | builtin op => op.arity
  | custom op => op.arity

def isCustom : Operator → Bool
  | builtin _ => false
  | custom _ => true

def prepare (op : Operator) (values : List Value) : List Value := op.arity.prepare values

def complaints (op : Operator) (values : List Value) : List Complaint :=
  let prepared := op.prepare values
  if op.arity.isMetBy prepared.length then
    match op with
    | builtin op => op.complaints prepared
    | custom op => op.complaints prepared
  else [.count op.token op.arity prepared.length]

def errors (op : Operator) (values : List Value) : List String :=
  (op.complaints values).map Complaint.message

def accepts (op : Operator) (values : List Value) : Bool := (op.complaints values).isEmpty

def contribute (op : Operator) (column : String) (values : List Value) (clock : Clock) :
    Assembly Unit :=
  let prepared := op.prepare values
  if column.isEmpty then pure ()
  else if op.arity.isMetBy prepared.length then
    match op with
    | builtin op => op.contribute column prepared clock
    | custom op => op.contributor column prepared clock
  else throw (.error (Error.arityMismatch op.token op.arity.text prepared.length))

end Operator
end ReportFilters
