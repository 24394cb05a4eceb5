import ReportFilters.Operator.Builtin

/-! Tests of a column that may be null. SQL knows three truth values, and a comparison with null is neither
true nor false; a row is selected only if the condition is true of it. The tests a condition is made of can be
read off its text and its parameters in one way only. -/

namespace ReportFilters

inductive Truth where
  | no
  | unknown
  | yes
deriving DecidableEq

namespace Truth

def ofBool (b : Bool) : Truth := if b then yes else no

def not : Truth → Truth
  | no => yes
  | unknown => unknown
  | yes => no

def or : Truth → Truth → Truth
  | yes, _ => yes
  | _, yes => yes
  | no, no => no
  | _, _ => unknown

def anyOf (truths : List Truth) : Truth := truths.foldr or no

@[simp] theorem anyOf_cons (t : Truth) (rest : List Truth) : anyOf (t :: rest) = t.or (anyOf rest) := rfl

theorem ofBool_eq_yes_iff (b : Bool) : ofBool b = yes ↔ b = true := by
  cases b <;> decide

theorem ofBool_eq_no_iff (b : Bool) : ofBool b = no ↔ b = false := by
  cases b <;> decide

theorem not_eq_yes_iff (t : Truth) : t.not = yes ↔ t = no := by
  cases t <;> decide

theorem or_eq_yes_iff (t u : Truth) : t.or u = yes ↔ t = yes ∨ u = yes := by
  cases t <;> cases u <;> decide

theorem or_eq_no_iff (t u : Truth) : t.or u = no ↔ t = no ∧ u = no := by
  cases t <;> cases u <;> decide

theorem anyOf_eq_yes_iff (truths : List Truth) : anyOf truths = yes ↔ yes ∈ truths := by
  induction truths with
  | nil => simp [anyOf]
  | cons t rest ih =>
    rw [anyOf_cons, or_eq_yes_iff, ih, List.mem_cons, eq_comm]

theorem anyOf_eq_no_iff (truths : List Truth) : anyOf truths = no ↔ ∀ t ∈ truths, t = no := by
  induction truths with
  | nil => simp [anyOf]
  | cons t rest ih =>
    rw [anyOf_cons, or_eq_no_iff, ih, List.forall_mem_cons]

end Truth

inductive CellTest where
  | isNull
  | among (values : List Value)
  | outside (values : List Value)
  | either (first second : CellTest)

namespace CellTest

def marks (values : List Value) : String := ", ".intercalate (values.map fun _ => "?")

def text (column : String) : CellTest → String
  | isNull => column ++ " IS NULL"
  | among values => column ++ " IN (" ++ marks values ++ ")"
  | outside values => column ++ " NOT IN (" ++ marks values ++ ")"
  | either first second => "(" ++ first.text column ++ " OR " ++ second.text column ++ ")"

def params : CellTest → List Value
  | isNull => []
  | among values => values
  | outside values => values
  | either first second => first.params ++ second.params

def condition (column : String) (test : CellTest) : Predicate := ⟨test.text column, test.params⟩

section
variable {α : Type} (same : α → Value → Bool) (cell : Option α)

/-- With a null on either side nothing is known. -/
def equals (v : Value) : Truth :=
  match cell with
  | none => .unknown
  | some a => if v.isNull then .unknown else .ofBool (same a v)

def truth : CellTest → Truth
  | isNull => .ofBool cell.isNone
  | among values => .anyOf (values.map (equals same cell))
  | outside values => (Truth.anyOf (values.map (equals same cell))).not
  | either first second => first.truth.or second.truth

end

theorem marks_append_inj {values others : List Value} {u v : List Char}
    (h : (marks values).toList ++ ')' :: u = (marks others).toList ++ ')' :: v) :
    values.length = others.length ∧ u = v := by
  induction values generalizing others with
  | nil => cases others with
    | nil => simpa [marks] using h
    | cons w more => cases more <;> simp [marks, String.intercalate_cons_cons] at h
  | cons w more ih => cases others with
    | nil => cases more <;> simp [marks, String.intercalate_cons_cons] at h
    | cons w' more' => cases more with
      | nil => cases more' with
        | nil => simpa [marks] using h
        | cons => simp [marks, String.intercalate_cons_cons] at h
      | cons x more => cases more' with
        | nil => simp [marks, String.intercalate_cons_cons] at h
        | cons x' more' =>
          have hrest : (marks (x :: more)).toList ++ ')' :: u
              = (marks (x' :: more')).toList ++ ')' :: v := by
            simpa [marks, String.intercalate_cons_cons] using h
          obtain ⟨hlength, hu⟩ := ih hrest
          exact ⟨congrArg (· + 1) hlength, hu⟩

section
variable {column : String} (hcol : column.toList.head? ≠ some '(')
include hcol

theorem column_append_ne (word rest : List Char) : column.toList ++ ' ' :: word ≠ '(' :: rest := by
  intro h
  cases hchars : column.toList with
  | nil =>
    rw [hchars] at h
    cases h
  | cons c more =>
    rw [hchars] at h hcol
    cases h
    exact hcol rfl

theorem append_inj {a b : CellTest} {u v : List Char} {ps qs : List Value}
    (htext : (a.text column).toList ++ u = (b.text column).toList ++ v)
    (hparams : a.params ++ ps = b.params ++ qs) : a = b ∧ u = v ∧ ps = qs := by
  have hne := column_append_ne hcol
  induction a generalizing b u v ps qs with
  | isNull => cases b with
    | isNull => exact ⟨rfl, List.append_cancel_left htext, hparams⟩
    | among | outside => simp [text] at htext
    | either => simp [text, hne] at htext
  | among values => cases b with
    | isNull | outside => simp [text] at htext
    | among others =>
      simp only [text, String.toList_append, List.append_assoc, List.append_cancel_left_eq] at htext
      obtain ⟨hlength, hu⟩ := marks_append_inj htext
      obtain ⟨rfl, hps⟩ := List.append_inj hparams hlength
      exact ⟨rfl, hu, hps⟩
    | either => simp [text, hne] at htext
  | outside values => cases b with
    | isNull | among => simp [text] at htext
    | outside others =>
      simp only [text, String.toList_append, List.append_assoc, List.append_cancel_left_eq] at htext
      obtain ⟨hlength, hu⟩ := marks_append_inj htext
      obtain ⟨rfl, hps⟩ := List.append_inj hparams hlength
      exact ⟨rfl, hu, hps⟩
    | either => simp [text, hne] at htext
  | either first second ihfirst ihsecond => cases b with
    | isNull | among | outside => simp [text, (hne _ _).symm] at htext
    | either first' second' =>
      simp only [text, params, String.toList_append, List.append_assoc] at htext hparams
      obtain ⟨rfl, hrest, hmore⟩ := ihfirst (List.append_cancel_left htext) hparams
      obtain ⟨rfl, hlast, hps⟩ := ihsecond (List.append_cancel_left hrest) hmore
      exact ⟨rfl, List.append_cancel_left hlast, hps⟩

theorem condition_inj {a b : CellTest} (h : a.condition column = b.condition column) : a = b := by
  obtain ⟨htext, hparams⟩ := Predicate.mk.inj h
  have hchars := congrArg (fun s : String => s.toList ++ []) htext
  exact (append_inj hcol hchars (congrArg (· ++ []) hparams)).1

end

end CellTest

def Predicate.HasTruth (p : Predicate) (column : String) {α : Type} (same : α → Value → Bool)
    (cell : Option α) (t : Truth) : Prop :=
  ∃ test : CellTest, p = test.condition column ∧ test.truth same cell = t

theorem Predicate.hasTruth_condition {column : String} (hcol : column.toList.head? ≠ some '(')
    (test : CellTest) {α : Type} (same : α → Value → Bool) (cell : Option α) (t : Truth) :
    (test.condition column).HasTruth column same cell t ↔ test.truth same cell = t := by
  constructor
  · rintro ⟨other, hsame, htruth⟩
    rwa [CellTest.condition_inj hcol hsame]
  · exact fun htruth => ⟨test, rfl, htruth⟩

end ReportFilters
