import ReportFilters.Proofs.Chain.Unseen
import ReportFilters.Proofs.Operator.Spelling
import ReportFilters.Proofs.Steps

/-! Chains with values spelled out. Whether a chain is valid, the query it compiles to and the code of an
error that it ends in are the same for days, dates and instants and for the texts of them. -/

namespace ReportFilters

namespace SameButWording

variable {step other : Assembly α}

theorem cases_apply (h : SameButWording step other) (s : Statement) :
    (∃ a t, step s = .ok a t ∧ other s = .ok a t) ∨
      ∃ failure failure' t, step s = .error failure t ∧ other s = .error failure' t ∧
        failure.code? = failure'.code? := by
  have hs := h s
  cases hstep : step s with
  | ok a t =>
    cases hother : other s with
    | ok b u =>
      rw [hstep, hother] at hs
      cases hs
      exact .inl ⟨a, t, rfl, rfl⟩
    | error failure u =>
      rw [hstep, hother] at hs
      cases hs
  | error failure t =>
    cases hother : other s with
    | ok b u =>
      rw [hstep, hother] at hs
      cases hs
    | error failure' u =>
      rw [hstep, hother] at hs
      injection hs with hcode hstate
      cases hstate
      exact .inr ⟨failure, failure', t, rfl, rfl, hcode⟩

theorem bind {next next' : α → Assembly β} (h : SameButWording step other)
    (hnext : ∀ a, SameButWording (next a) (next' a)) :
    SameButWording (step >>= next) (other >>= next') := by
  intro s
  rcases h.cases_apply s with ⟨a, t, hstep, hother⟩ | ⟨failure, failure', t, hstep, hother, hcode⟩
  · rw [bind_apply, bind_apply, hstep, hother]
    exact hnext a t
  · simp only [bind_apply, hstep, hother, codedResult, hcode]

theorem withFilter (h : SameButWording step other) (name : String) :
    SameButWording (EStateM.adaptExcept (·.withFilter name) step)
      (EStateM.adaptExcept (·.withFilter name) other) := by
  intro s
  rcases h.cases_apply s with ⟨a, t, hstep, hother⟩ | ⟨failure, failure', t, hstep, hother, hcode⟩
  · simp only [adaptExcept_apply, hstep, hother]
  · simp only [adaptExcept_apply, hstep, hother, codedResult, Failure.code?_withFilter, hcode]

end SameButWording

namespace Filter

def Respelled (f g : Filter) : Prop :=
  ∃ values, List.Forall₂ f.operator.Respells f.values values ∧ g = f.setValues values

theorem Respelled.isValid {f g : Filter} (h : f.Respelled g) : f.isValid = g.isValid := by
  obtain ⟨values, hvalues, rfl⟩ := h
  exact (Operator.alike_of_respells hvalues).1

theorem Respelled.contribute {f g : Filter} (h : f.Respelled g) (hregular : Value.AreRegular f.values)
    (clock : Clock) : SameButWording (f.contribute clock) (g.contribute clock) := by
  obtain ⟨values, hvalues, rfl⟩ := h
  obtain ⟨-, hcondition⟩ := (Operator.alike_of_respells hvalues).2 f.column clock
  have hcolumn : (f.setValues values).column = f.column := rfl
  unfold Filter.contribute
  rw [hcolumn]
  by_cases hempty : f.column.isEmpty
  · rw [if_pos hempty, if_pos hempty]
    exact fun _ => rfl
  · rw [if_neg hempty, if_neg hempty]
    exact SameButWording.bind (fun _ => rfl) fun _ => (hcondition hregular).withFilter f.name

end Filter

namespace Chain

theorem forM_contribute_sameButWording {fs gs : List Filter} (h : List.Forall₂ Filter.Respelled fs gs)
    (hregular : ∀ f ∈ fs, Value.AreRegular f.values) (clock : Clock) :
    SameButWording (fs.forM fun f => f.contribute clock) (gs.forM fun g => g.contribute clock) := by
  induction h with
  | nil => exact fun _ => rfl
  | cons hfg _ ih =>
    obtain ⟨hf, hfs⟩ := List.forall_mem_cons.mp hregular
    exact (hfg.contribute hf clock).bind fun _ => ih hfs

section
variable {chain other : Chain} (h : List.Forall₂ Filter.Respelled chain.filters other.filters)
  (hregular : ∀ f ∈ chain.filters, Value.AreRegular f.values)
include h hregular

theorem assemble_eq_of_respelled (table : String) (dialect : Dialect) (clock : Clock) :
    (chain.assemble table dialect clock).mapError Failure.code?
      = (other.assemble table dialect clock).mapError Failure.code? := by
  have hbottomUp := List.forall₂_reverse_iff.mpr h
  have hrefused := find?_not_isValid_rel (fun _ _ hfg => hfg.isValid) hbottomUp
  have hsteps := forM_contribute_sameButWording hbottomUp
    (fun f hf => hregular f (List.mem_reverse.mp hf)) clock
  rw [assemble, assemble, bottomUp, bottomUp]
  generalize chain.filters.reverse.find? (fun f => !f.isValid) = refused at hrefused ⊢
  generalize other.filters.reverse.find? (fun g => !g.isValid) = refused' at hrefused ⊢
  -- the messages about a refused filter may differ, but their code is one and the same
  cases hrefused with
  | some _ => rfl
  | none =>
    dsimp only [EStateM.run]
    rcases hsteps.cases_apply (Statement.empty table dialect) with
      ⟨_, s, hstep, hother⟩ | ⟨failure, failure', s, hstep, hother, hcode⟩
    · rw [hstep, hother]
    · rw [hstep, hother]
      exact congrArg Except.error hcode

theorem compile_eq_of_respelled (table : String) (dialect : Dialect) (clock : Clock) :
    (chain.compile table dialect clock).mapError Failure.code?
      = (other.compile table dialect clock).mapError Failure.code? := by
  have hmap : ∀ result : Except Failure Statement,
      (result.map Statement.compiled).mapError Failure.code?
        = (result.mapError Failure.code?).map Statement.compiled := by
    intro result
    cases result <;> rfl
  rw [compile, compile, hmap, hmap, assemble_eq_of_respelled h hregular]

end

/-- Days, dates and instants and the texts of them are interchangeable in the values of the operators meant
for them, of one operator and in a chain: what is accepted, the condition, the query and its parameters
and the code of an error are the same. Where an instant is in a leap second within a minute the parameters
are those of the instant that is written like it, and all else is the same. -/
theorem interchangeable_spellings :
    (∀ (op : Operator) values others, List.Forall₂ op.Respells values others →
      op.accepts values = op.accepts others ∧ ∀ column clock,
        SameIn Statement.blank (op.contribute column values clock)
          (op.contribute column others clock) ∧
        (Value.AreRegular values →
          SameButWording (op.contribute column values clock) (op.contribute column others clock))) ∧
    (∀ t s, Value.SpelledAs (.instant t) s →
      Value.SpelledAs (.instant t.carried) s ∧ t.carried.IsRegular) ∧
    ∀ chain other : Chain, List.Forall₂ Filter.Respelled chain.filters other.filters →
      chain.isValid = other.isValid ∧
        ((∀ f ∈ chain.filters, Value.AreRegular f.values) → ∀ table dialect clock,
          (chain.compile table dialect clock).mapError Failure.code?
            = (other.compile table dialect clock).mapError Failure.code?) :=
  ⟨fun _ _ _ h => Operator.alike_of_respells h, fun t _ h => ⟨h.carried, t.isRegular_carried⟩,
    fun _ _ h => ⟨isValid_eq_of_rel (fun _ _ hfg => hfg.isValid) h, compile_eq_of_respelled h⟩⟩

def bookedAndDue (dates days : List Value) : Chain :=
  let booked : FilterType := ⟨"spent_on", none, "entries.spent_on", [], [], none, false, true, false⟩
  let due : FilterType := ⟨"due_date", none, "issues.due_date", [], [], none, false, true, false⟩
  ⟨[⟨⟨2⟩, { type := due, default := .builtin .daysAhead, values := days }⟩,
    ⟨.first, { type := booked, default := .builtin .betweenDates, values := dates }⟩]⟩

def leapMorning : Instant :=
  (Instant.ofLocal? 736329 19799 1250000000 ⟨19800, by decide⟩).get (by decide)

theorem interchangeable_leapMorning :
    let typed := bookedAndDue [.instant leapMorning, .day ⟨738944, by decide, by decide⟩] [.int 3]
    let spelled := bookedAndDue [.text "2017-01-01T05:29:60.250+05:30\n", .text " 2024-02-29"] [.text "\t3"]
    typed.isValid ∧ spelled.isValid ∧
    (typed.compile "entries" .postgresql Builtin.mayNoon).toOption.isSome ∧ ∀ table dialect clock,
      (typed.compile table dialect clock).mapError Failure.code?
        = (spelled.compile table dialect clock).mapError Failure.code? := by
  intro typed spelled
  have hmorning : Value.SpelledAs (.instant leapMorning) "2017-01-01T05:29:60.250+05:30\n" :=
    .instant (by decide) (by decide) (.inl (Text.sameButBlanks_iff.mpr (by decide +kernel)))
  have hday : Value.SpelledAs (.day ⟨738944, by decide, by decide⟩) " 2024-02-29" :=
    .day (by decide) (Text.sameButBlanks_iff.mpr (by decide +kernel))
  have hcount : Value.SpelledAs (.int 3) "\t3" :=
    .int (Text.sameButBlanks_iff.mpr (by decide +kernel))
  obtain ⟨hsame, hcompiled⟩ := interchangeable_spellings.2.2 typed spelled
    (.cons ⟨_, .cons (.int (by decide) hcount) .nil, rfl⟩
      (.cons ⟨_, .cons (.instant (by decide) hmorning) (.cons (.day (by decide) hday) .nil), rfl⟩ .nil))
  have hregular : ∀ f ∈ typed.filters, Value.AreRegular f.values := by
    simp only [typed, bookedAndDue, filters, List.map_cons, List.map_nil, List.forall_mem_cons]
    refine ⟨fun t ht => ?_, fun t ht => ?_, by simp⟩
    · simp at ht
    · obtain rfl : t = leapMorning := by simpa using ht
      decide
  have hvalid : typed.isValid := by decide +kernel
  exact ⟨hvalid, hsame ▸ hvalid, by decide +kernel, hcompiled hregular⟩

/-- A leap second after 12:00:30, half a second into it. -/
def midMinute : Instant := (Instant.ofLocal? 739020 43230 1500000000 .utc).get (by decide)

def secondsEast : Clock := ⟨midMinute.inOffset ⟨29, by decide⟩, .monday⟩

def boundBefore (v : Value) : List (Option String) :=
  match (Operator.builtin .beforeDate).contribute "entries.spent_on" [v] secondsEast
    (Statement.empty "entries" .postgresql) with
  | .ok _ s => s.params.map Value.text?
  | .error _ _ => []

theorem boundBefore_midMinute_ne : Value.SpelledAs (.instant midMinute) midMinute.text ∧
    boundBefore (.instant midMinute) = [some "2024-05-15T12:00:60.500+00:00"] ∧
    boundBefore (.text midMinute.text) = [some "2024-05-15T12:01:00.500+00:00"] ∧
    boundBefore (.instant midMinute) ≠ boundBefore (.text midMinute.text) := by
  have htyped : boundBefore (.instant midMinute) = [some "2024-05-15T12:00:60.500+00:00"] := by
    decide +kernel
  have hspelled : boundBefore (.text midMinute.text) = [some "2024-05-15T12:01:00.500+00:00"] := by
    decide +kernel
  refine ⟨.instant (by decide) (by decide) (.inl (Text.sameButBlanks_iff.mpr (by decide +kernel))),
    htyped, hspelled, ?_⟩
  rw [htyped, hspelled]
  decide

end Chain
end ReportFilters
