import ReportFilters.Chain
import ReportFilters.Proofs.Operator.Preparation
import ReportFilters.Proofs.Outcome

/-! Chains that say the same. A chain asks its filters for their names, for what is wrong with them and for
what they contribute, and for nothing else. Filters that answer alike can be put in each other's place,
and they do if they differ in values that their operators are never given. -/

namespace ReportFilters

namespace Filter

structure Interchangeable (f g : Filter) : Prop where
  name : f.name = g.name
  isValid : f.isValid = g.isValid
  errors : f.errors = g.errors
  contribute : f.contribute = g.contribute

theorem interchangeable_setValues {f : Filter} {values : List Value}
    (h : f.operator.arity.Alike f.values values) : f.Interchangeable (f.setValues values) := by
  refine ⟨rfl, Operator.accepts_eq_of_alike h, Operator.errors_eq_of_alike h, ?_⟩
  funext clock
  have hsame : (f.setValues values).operator.contribute (f.setValues values).column values clock
      = f.operator.contribute f.column f.values clock :=
    (Operator.contribute_eq_of_alike h f.column clock).symm
  rw [contribute, contribute, setValues, ← hsame]
  rfl

end Filter

namespace Chain

theorem find?_not_isValid_rel {R : Filter → Filter → Prop} (hR : ∀ f g, R f g → f.isValid = g.isValid)
    {fs gs : List Filter} (h : List.Forall₂ R fs gs) :
    Option.Rel R (fs.find? fun f => !f.isValid) (gs.find? fun g => !g.isValid) := by
  induction h with
  | nil => exact .none
  | @cons f g fs gs hfg _ ih =>
    rw [List.find?_cons, List.find?_cons, hR f g hfg]
    cases g.isValid with
    | true => exact ih
    | false => exact .some hfg

theorem isValid_eq_of_rel {R : Filter → Filter → Prop} (hR : ∀ f g, R f g → f.isValid = g.isValid)
    {chain other : Chain} (h : List.Forall₂ R chain.filters other.filters) :
    chain.isValid = other.isValid := by
  have hall : ∀ fs : List Filter, fs.all Filter.isValid = (fs.map Filter.isValid).all id := fun fs => by
    rw [List.all_map, Function.id_comp]
  rw [isValid, isValid, hall, hall, map_eq_of_forall₂ h hR]

section
variable {fs gs : List Filter} (h : List.Forall₂ Filter.Interchangeable fs gs)
include h

theorem forM_contribute_eq (clock : Clock) :
    (fs.forM fun f => f.contribute clock) = gs.forM fun g => g.contribute clock := by
  induction h with
  | nil => rfl
  | @cons f g fs gs hfg _ ih =>
    rw [List.forM, List.forM, hfg.contribute, ih]

end

section
variable {chain other : Chain} (h : List.Forall₂ Filter.Interchangeable chain.filters other.filters)
include h

theorem isValid_eq_of_forall₂ : chain.isValid = other.isValid :=
  isValid_eq_of_rel (fun _ _ hfg => hfg.isValid) h

theorem errors_eq_of_forall₂ : chain.errors = other.errors := by
  have hmessages := map_eq_of_forall₂ (List.forall₂_reverse_iff.mpr h)
    (f := fun f => f.errors.map fun message => f.name ++ ": " ++ message)
    (g := fun g => g.errors.map fun message => g.name ++ ": " ++ message)
    fun f g hfg => by rw [hfg.errors, hfg.name]
  rw [errors, errors, List.flatMap_def, List.flatMap_def]
  exact congrArg List.flatten hmessages

theorem compile_eq_of_forall₂ : chain.compile = other.compile := by
  have hbottomUp := List.forall₂_reverse_iff.mpr h
  have hrefused := find?_not_isValid_rel (fun _ _ hfg => hfg.isValid) hbottomUp
  funext table dialect clock
  rw [compile, compile, assemble, assemble, bottomUp, bottomUp, forM_contribute_eq hbottomUp]
  generalize chain.filters.reverse.find? (fun f => !f.isValid) = refused at hrefused ⊢
  generalize other.filters.reverse.find? (fun g => !g.isValid) = refused' at hrefused ⊢
  cases hrefused with
  | none => rfl
  | some hfg =>
    dsimp only
    rw [hfg.name, hfg.errors]

end

/-- Chains are valid alike, have the same errors and compile to the same result if the values of their
filters come of each other by putting in or taking out nulls and by changing what is beyond a fixed
arity. What node ids they have makes no difference either. -/
theorem unseen_of_alike {chain other : Chain}
    (h : List.Forall₂ (fun f g : Filter => ∃ values, f.operator.arity.Alike f.values values ∧
      g = f.setValues values) chain.filters other.filters) :
    chain.isValid = other.isValid ∧ chain.errors = other.errors ∧
      ∀ table dialect clock, chain.compile table dialect clock = other.compile table dialect clock := by
  have hfilters : List.Forall₂ Filter.Interchangeable chain.filters other.filters := by
    refine h.imp ?_
    rintro f g ⟨values, halike, rfl⟩
    exact Filter.interchangeable_setValues halike
  refine ⟨isValid_eq_of_forall₂ hfilters, errors_eq_of_forall₂ hfilters, fun table dialect clock => ?_⟩
  rw [compile_eq_of_forall₂ hfilters]

def spent (dates users : List Value) : Chain :=
  let date : FilterType := ⟨"spent_on", none, "entries.spent_on", [], [], none, false, true, false⟩
  let user : FilterType := ⟨"user_id", none, "entries.user_id", [], [], none, false, true, false⟩
  ⟨[⟨⟨2⟩, { type := user, default := .builtin .equal, values := users }⟩,
    ⟨.first, { type := date, default := .builtin .betweenDates, values := dates }⟩]⟩

/-- The nulls have to go first here, or the second date would be cut off. -/
theorem unseen_spent :
    let dates : List Value := [.text "2024-05-01", .text "2024-05-31"]
    let entered : List Value := [.null, .text "2024-05-01", .null, .text "2024-05-31", .text "later"]
    (Arity.fixed 2).Alike entered dates ∧ Arity.variadic.Alike [.int 3, .null, .int 5] [.int 3, .int 5] ∧
      (spent entered [.int 3, .null, .int 5]).isValid ∧
      ∀ table dialect clock, (spent entered [.int 3, .null, .int 5]).compile table dialect clock
        = (spent dates [.int 3, .int 5]).compile table dialect clock := by
  intro dates entered
  have hdates : (Arity.fixed 2).Alike entered dates := Arity.prepare_eq_iff.mp rfl
  have husers : Arity.variadic.Alike [.int 3, .null, .int 5] [.int 3, .int 5] := Arity.prepare_eq_iff.mp rfl
  have hunseen := @unseen_of_alike (spent entered [.int 3, .null, .int 5]) (spent dates [.int 3, .int 5])
    (.cons ⟨_, husers, rfl⟩ (.cons ⟨_, hdates, rfl⟩ .nil))
  exact ⟨hdates, husers, by decide +kernel, hunseen.2.2⟩

end Chain
end ReportFilters
