import ReportFilters.Proofs.Operator.RelativeDays
import ReportFilters.Proofs.Value.Spelling

/-! Operators on days and dates with their values spelled out. They read the same of a value and of its
text, so that one can stand for the other: both are accepted or refused, and what is done with them differs
in the wording of an error at most. An instant in a leap second within a minute is spelled as another, so
that the parameters may differ as well; all else is the same. -/

namespace ReportFilters

def Failure.code? : Failure → Option ErrorCode
  | .error e => some e.code
  | .offCalendar => none

theorem Failure.code?_withFilter (failure : Failure) (name : String) :
    (failure.withFilter name).code? = failure.code? := by
  cases failure <;> rfl

def ValueFault.code? : ValueFault → Option ErrorCode
  | .offCalendar => none
  | _ => some .invalidValue

theorem ValueFault.code?_failure (token : String) (fault : ValueFault) :
    (fault.failure token).code? = fault.code? := by
  cases fault <;> rfl

def SameCode (failure other : Failure) : Prop := failure.code? = other.code?

def SameFault (fault other : ValueFault) : Prop := fault.code? = other.code?

/-- The same if sameness is asked for, and anything else if it is not. -/
def Close (exact : Prop) (a b : α) : Prop := exact → a = b

theorem Close.refl (exact : Prop) (a : α) : Close exact a a := fun _ => rfl

theorem eq_of_forall₂_close {exact : Prop} {as bs : List α} (h : List.Forall₂ (Close exact) as bs)
    (hexact : exact) : as = bs := by
  have heq := h.imp fun _ _ hab => hab hexact
  rwa [List.forall₂_eq_eq_eq] at heq

structure Predicate.Alike (exact : Prop) (p q : Predicate) : Prop where
  fragment : p.fragment = q.fragment
  params : List.Forall₂ (Close exact) p.params q.params

theorem Predicate.Alike.refl (exact : Prop) (p : Predicate) : p.Alike exact p :=
  ⟨rfl, List.forall₂_same.mpr fun v _ => Close.refl exact v⟩

theorem Predicate.related_self {exact : Prop} (x : Except ValueFault Predicate) :
    Related SameFault (Predicate.Alike exact) x x :=
  Related.refl (E := SameFault) (fun _ => rfl) (Predicate.Alike.refl exact) x

theorem Predicate.Alike.matched {exact : Prop} {p q : Predicate} (h : p.Alike exact q) :
    Related SameCode (Predicate.Alike exact) p.matched q.matched := by
  have hsame : p.isMatched = q.isMatched := by
    rw [isMatched, isMatched, h.fragment, h.params.length_eq]
  rw [Predicate.matched, Predicate.matched, hsame]
  split
  · exact .ok h
  · exact .error rfl

theorem Arity.prepare_rel {R : Value → Value → Prop} (hnull : ∀ v w, R v w → v.isNull = w.isNull)
    {values others : List Value} (h : List.Forall₂ R values others) (arity : Arity) :
    List.Forall₂ R (arity.prepare values) (arity.prepare others) := by
  have hpresent : List.Forall₂ R (values.filter fun v => !v.isNull)
      (others.filter fun v => !v.isNull) := by
    refine List.rel_filter ?_ h
    intro v w hvw
    simp only [hnull v w hvw]
  cases arity with
  | fixed count => exact List.forall₂_take count hpresent
  | variadic => exact hpresent

namespace Builtin

open Predicate (related_self)

def absoluteDates : List Builtin := [onDate, beforeDate, afterDate, betweenDates]

inductive Respells (op : Builtin) : Value → Value → Prop
  | same (v : Value) : Respells op v v
  | int (hop : op ∈ relativeDays) {n : Int64} {s : String} (h : Value.SpelledAs (.int n) s) :
    Respells op (.int n) (.text s)
  | day (hop : op ∈ absoluteDates) {d : Day} {s : String} (h : Value.SpelledAs (.day d) s) :
    Respells op (.day d) (.text s)
  | instant (hop : op ∈ absoluteDates) {t : Instant} {s : String} (h : Value.SpelledAs (.instant t) s) :
    Respells op (.instant t) (.text s)

/-- Close numbers of days, and the days and those after them begin in every offset if they are not one
and the same. -/
def CloseDays (exact : Prop) (m n : Int) : Prop :=
  Close exact m n ∧ (m = n ∨ ∀ k ∈ [m, m + 1, n, n + 1], -95746130 < k ∧ k < 95745398)

theorem CloseDays.refl (exact : Prop) (n : Int) : CloseDays exact n n := ⟨Close.refl exact n, .inl rfl⟩

/-- The operator finds the same in both values, or instants and days that are close. -/
structure ReadsAlike (exact : Prop) (op : Builtin) (v w : Value) : Prop where
  isNull : v.isNull = w.isNull
  days : op.expectation? = some .wholeDays → days? v = days? w
  instant : op.expectation? = some .date → ∀ offset,
    Option.Rel (Close exact) (v.instant? offset) (w.instant? offset)
  dayNumber : op.expectation? = some .date → ∀ offset,
    Option.Rel (CloseDays exact) (v.dayNumber? offset) (w.dayNumber? offset)
  other : op.expectation? ≠ some .wholeDays → op.expectation? ≠ some .date → v = w

theorem expectation?_of_absoluteDates {op : Builtin} (hop : op ∈ absoluteDates) :
    op.expectation? = some .date := by
  simp only [absoluteDates, List.mem_cons, List.not_mem_nil, or_false] at hop
  rcases hop with rfl | rfl | rfl | rfl <;> rfl

section
variable {exact : Prop} {op : Builtin}

theorem rel_of_eq {R : α → α → Prop} (hrefl : ∀ a, R a a) {x y : Option α} (h : x = y) :
    Option.Rel R x y := by
  subst h
  cases x with
  | none => exact .none
  | some a => exact .some (hrefl a)

theorem readsAlike_of_date (hdate : op.expectation? = some .date) {v w : Value}
    (hnull : v.isNull = w.isNull)
    (hinstant : ∀ offset, Option.Rel (Close exact) (v.instant? offset) (w.instant? offset))
    (hday : ∀ offset, Option.Rel (CloseDays exact) (v.dayNumber? offset) (w.dayNumber? offset)) :
    op.ReadsAlike exact v w := by
  refine ⟨hnull, ?_, fun _ => hinstant, fun _ => hday, fun _ hne => absurd hdate hne⟩
  intro hdays
  rw [hdate] at hdays
  cases hdays

theorem closeDays_carried {t : Instant} (hyear : CivilDate.InFourDigits t.localDayNumber)
    (hregular : exact → t.IsRegular) (offset : Offset) :
    CloseDays exact (t.inOffset offset).localDayNumber (t.carried.inOffset offset).localDayNumber := by
  refine ⟨fun hexact => by rw [Instant.carried_of_isRegular (hregular hexact)], .inr ?_⟩
  have hbounds := hyear.bounds
  have hhere := t.offset.within
  have hthere := offset.within
  have hnext : t.second ≤ t.carried.second ∧ t.carried.second ≤ t.second + 1 := by
    rcases t.carried_cases with ⟨-, hsame⟩ | ⟨-, hnext, -⟩
    · rw [hsame]
      omega
    · omega
  simp only [Instant.localDayNumber, Instant.localSecond, Instant.inOffset] at hbounds ⊢
  simp only [List.forall_mem_cons, List.not_mem_nil, false_implies, implies_true, and_true]
  omega

theorem Respells.readsAlike {v w : Value} (h : op.Respells v w)
    (hregular : exact → ∀ t, v = .instant t → t.IsRegular) : op.ReadsAlike exact v w := by
  cases h with
  | same =>
    exact ⟨rfl, fun _ => rfl, fun _ _ => rel_of_eq (Close.refl exact) rfl,
      fun _ _ => rel_of_eq (CloseDays.refl exact) rfl, fun _ _ => rfl⟩
  | @int hop n s h =>
    obtain ⟨-, hdays, -⟩ := kind_of_relativeDays hop
    have hread : (Value.int n).int64? = (Value.text s).int64? := (Value.int64?_of_spelledAs h).symm
    have hdate : op.expectation? ≠ some .date := by
      rw [hdays]
      decide
    refine ⟨rfl, fun _ => ?_, fun h => absurd h hdate, fun h => absurd h hdate,
      fun hne => absurd hdays hne⟩
    rw [days?, days?, hread]
  | day hop h =>
    -- a text is on the day of its instant, so that the spelled day has to have a midnight
    refine readsAlike_of_date (expectation?_of_absoluteDates hop) rfl (fun offset => ?_)
      fun offset => ?_
    · have hmoment := (Value.moment?_of_spelledAs_day h).symm
      exact rel_of_eq (Close.refl exact) (Value.instant?_eq_of_moment? (v := .day _) hmoment offset)
    · exact rel_of_eq (CloseDays.refl exact) (Value.dayNumber?_of_spelledAs_day h offset).symm
  | @instant hop t s h =>
    have hmoment := Value.moment?_of_spelledAs_instant h
    have hsame : exact → t.IsRegular := fun hexact => hregular hexact t rfl
    refine readsAlike_of_date (expectation?_of_absoluteDates hop) rfl (fun offset => ?_)
      fun offset => ?_
    · rw [Value.instant?_of_inl hmoment, Value.instant?_of_inl (v := .instant _) rfl]
      exact .some fun hexact => by rw [Instant.carried_of_isRegular (hsame hexact)]
    · rw [Value.dayNumber?_of_inl hmoment, Value.dayNumber?_of_inl (v := .instant _) rfl]
      cases h with
      | instant hyear _ _ => exact .some (closeDays_carried hyear hsame offset)

theorem boundary_related (clock : Clock) (shift : Int) {m n : Int} (hsame : Close exact m n)
    (hm : clock.offset.HasMidnight (m + shift)) (hn : clock.offset.HasMidnight (n + shift)) :
    Related SameFault (Close exact) (boundary clock m shift) (boundary clock n shift) := by
  have hok : ∀ k, clock.offset.HasMidnight (k + shift) → ∃ v, boundary clock k shift = .ok v := by
    intro k hk
    rcases hangsOn_boundary clock k shift with ⟨-, hok⟩ | ⟨⟨_, hmem, hmissing⟩, -⟩
    · exact hok
    · rw [List.mem_singleton.mp hmem] at hmissing
      exact absurd hk hmissing
  obtain ⟨v, hv⟩ := hok m hm
  obtain ⟨w, hw⟩ := hok n hn
  rw [hv, hw]
  refine .ok fun hexact => ?_
  rw [hsame hexact, hw] at hv
  exact (Except.ok.inj hv).symm

theorem onDay_related (column : String) (clock : Clock) {m n : Int} (h : CloseDays exact m n) :
    Related SameFault (Predicate.Alike exact)
      (if (Day.ofNumber? m).isSome then dayRange column clock m 0 1 else .error .offCalendar)
      (if (Day.ofNumber? n).isSome then dayRange column clock n 0 1 else .error .offCalendar) := by
  obtain ⟨hsame, rfl | hinner⟩ := h
  · exact related_self _
  · simp only [List.forall_mem_cons, List.not_mem_nil, false_implies, implies_true, and_true] at hinner
    obtain ⟨hm, hm', hn, hn'⟩ := hinner
    have hday : ∀ k : Int, -95746130 < k → k < 95745398 → (Day.ofNumber? k).isSome := by
      intro k hfirst hlast
      rw [Day.ofNumber?, dif_pos ⟨Int.le_of_lt hfirst, Int.le_of_lt hlast⟩]
      rfl
    have hmidnight : ∀ k : Int, -95746130 < k → k < 95745398 → clock.offset.HasMidnight k :=
      fun _ => clock.offset.hasMidnight_of_inner
    rw [if_pos (hday m hm.1 hm.2), if_pos (hday n hn.1 hn.2)]
    refine (boundary_related clock 0 hsame ?_ ?_).bind fun start start' hstart => ?_
    · exact hmidnight _ (by omega) (by omega)
    · exact hmidnight _ (by omega) (by omega)
    refine (boundary_related clock 1 hsame ?_ ?_).bind fun stop stop' hstop => ?_
    · exact hmidnight _ (by omega) (by omega)
    · exact hmidnight _ (by omega) (by omega)
    exact .ok ⟨rfl, .cons hstart (.cons hstop .nil)⟩

variable {values others : List Value} (h : List.Forall₂ (op.ReadsAlike exact) values others)
include h

theorem usable_related {R : α → α → Prop} {read : Value → Option α}
    (hread : ∀ v w, op.ReadsAlike exact v w → Option.Rel R (read v) (read w)) (index : Nat) :
    Related SameFault R (usable read values index) (usable read others index) := by
  have hentry := getElem?_rel h index
  unfold usable valueAt
  generalize values[index]? = first at hentry ⊢
  generalize others[index]? = second at hentry ⊢
  cases hentry with
  | none => exact .error rfl
  | @some v w hvw =>
    have hfound := hread v w hvw
    dsimp only [bind, Except.bind]
    generalize read v = found at hfound ⊢
    generalize read w = found' at hfound ⊢
    cases hfound with
    | none => exact .error rfl
    | some hR => exact .ok hR

theorem bind_days_related (hdays : op.expectation? = some .wholeDays)
    (next : Int → Except ValueFault Predicate) :
    Related SameFault (Predicate.Alike exact) (usable days? values 0 >>= next)
      (usable days? others 0 >>= next) := by
  refine (usable_related h (R := Eq) (fun v w hvw => ?_) 0).bind ?_
  · exact rel_of_eq (fun _ => rfl) (hvw.days hdays)
  · rintro n _ rfl
    exact related_self _

theorem instantAt_related (hdate : op.expectation? = some .date) (clock : Clock) (index : Nat) :
    Related SameFault (Close exact) (instantAt clock values index) (instantAt clock others index) := by
  refine (usable_related h (fun _ _ hvw => hvw.instant hdate clock.offset) index).map ?_
  exact fun t u hsame hexact => congrArg Value.instant (hsame hexact)

theorem predicate_related (column : String) (clock : Clock) :
    Related SameFault (Predicate.Alike exact) (op.predicate column values clock)
      (op.predicate column others clock) := by
  have hsame : op.expectation? ≠ some .wholeDays → op.expectation? ≠ some .date → values = others := by
    intro hdays hdate
    have heq := h.imp fun v w hvw => hvw.other hdays hdate
    rwa [List.forall₂_eq_eq_eq] at heq
  cases op with
  | daysAhead | daysAgo | beforeDaysAhead | afterDaysAhead | beforeDaysAgo | afterDaysAgo =>
    exact bind_days_related h rfl _
  | onDate =>
    exact (usable_related h (fun _ _ hvw => hvw.dayNumber rfl clock.offset) 0).bind
      fun _ _ hclose => onDay_related column clock hclose
  | beforeDate | afterDate =>
    exact (instantAt_related h rfl clock 0).bind fun _ _ hclose => .ok ⟨rfl, .cons hclose .nil⟩
  | betweenDates =>
    refine (instantAt_related h rfl clock 0).bind fun _ _ hstart => ?_
    refine (instantAt_related h rfl clock 1).bind fun _ _ hstop => ?_
    exact .ok ⟨rfl, .cons hstart (.cons hstop .nil)⟩
  | _ =>
    rw [hsame (by decide) (by decide)]
    exact related_self _

theorem clause_related (dialect : Dialect) (column : String) (clock : Clock) :
    Related SameCode (Predicate.Alike exact) (op.clause dialect column values clock)
      (op.clause dialect column others clock) := by
  unfold clause
  split
  · refine (predicate_related h (dialect.quoteQualified column) clock).mapError ?_
    intro fault fault' hfault
    rw [SameCode, fault.code?_failure, fault'.code?_failure]
    exact hfault
  · exact .error rfl

omit h in
theorem accepts_eq_of_readsAlike {expected : Expectation} (hexpects : op.expectation? = some expected)
    {v w : Value} (hread : op.ReadsAlike exact v w) : expected.accepts v = expected.accepts w := by
  cases expected with
  | wholeDays => rw [Expectation.accepts, Expectation.accepts, hread.days hexpects]
  | date =>
    have hinstant := hread.instant hexpects .utc
    rw [Expectation.accepts, Expectation.accepts]
    generalize v.instant? .utc = found at hinstant ⊢
    generalize w.instant? .utc = found' at hinstant ⊢
    cases hinstant <;> rfl
  | number | text =>
    rw [hread.other] <;> simp [hexpects]

theorem length_complaints_eq_of_readsAlike :
    (op.complaints values).length = (op.complaints others).length := by
  unfold complaints
  cases hexpects : op.expectation? with
  | none => rfl
  | some expected =>
    have hrefused : List.Forall₂ (op.ReadsAlike exact) (values.filter fun v => !expected.accepts v)
        (others.filter fun v => !expected.accepts v) := by
      refine List.rel_filter ?_ h
      intro v w hread
      simp only [accepts_eq_of_readsAlike hexpects hread]
    simpa only [List.length_map] using hrefused.length_eq

end

end Builtin

def Statement.blank (s : Statement) : Statement := { s with params := s.params.map fun _ => .null }

/-- The result of a step as far as `view` shows it, of an error only the code. -/
def codedResult (view : Statement → Statement) :
    EStateM.Result Failure Statement α → EStateM.Result (Option ErrorCode) Statement α
  | .ok a s => .ok a (view s)
  | .error failure s => .error failure.code? (view s)

def SameIn (view : Statement → Statement) (step other : Assembly α) : Prop :=
  ∀ s, codedResult view (step s) = codedResult view (other s)

abbrev SameButWording (step other : Assembly α) : Prop := SameIn id step other

section
variable {exact : Prop} {p q : Predicate} {result other : Except Failure Predicate}

theorem Statement.blank_withPredicate (h : p.Alike exact q) (s : Statement) :
    (s.withPredicate p).blank = (s.withPredicate q).blank := by
  simp only [blank, withPredicate, h.fragment, List.map_append, List.map_const', h.params.length_eq]

theorem Statement.append_sameIn_blank (h : Related SameCode (Predicate.Alike exact) result other)
    (s : Statement) : codedResult blank (s.append result) = codedResult blank (s.append other) := by
  cases h with
  | error hcode => exact congrArg (EStateM.Result.error · s.blank) hcode
  | ok hpq => exact congrArg (EStateM.Result.ok ()) (s.blank_withPredicate hpq)

theorem Statement.append_sameButWording (h : Related SameCode (Predicate.Alike exact) result other)
    (hexact : exact) (s : Statement) : codedResult id (s.append result) = codedResult id (s.append other) := by
  cases h with
  | error hcode => exact congrArg (EStateM.Result.error · s) hcode
  | @ok p q hpq =>
    obtain ⟨fragment, params⟩ := p
    obtain ⟨fragment', params'⟩ := q
    obtain rfl : fragment = fragment' := hpq.fragment
    obtain rfl : params = params' := eq_of_forall₂_close hpq.params hexact
    rfl

end

/-- Without an instant in a leap second within a minute. -/
def Value.AreRegular (values : List Value) : Prop := ∀ t, instant t ∈ values → t.IsRegular

namespace Operator
open Value (AreRegular)

section
variable {exact : Prop} {op : Builtin} {values others : List Value}
  (h : List.Forall₂ (op.ReadsAlike exact) values others)
include h

theorem prepare_readsAlike :
    List.Forall₂ (op.ReadsAlike exact) ((builtin op).prepare values) ((builtin op).prepare others) :=
  Arity.prepare_rel (fun _ _ hvw => hvw.isNull) h op.arity

theorem accepts_eq_of_readsAlike : (builtin op).accepts values = (builtin op).accepts others := by
  have hprepared := prepare_readsAlike h
  have hcomplaints : ((builtin op).check ((builtin op).prepare values)).length
      = ((builtin op).check ((builtin op).prepare others)).length :=
    Builtin.length_complaints_eq_of_readsAlike hprepared
  have hlength : ((builtin op).complaints values).length = ((builtin op).complaints others).length := by
    rw [complaints_eq_check, complaints_eq_check, hprepared.length_eq]
    split
    · exact hcomplaints
    · rfl
  rw [accepts, accepts, Bool.eq_iff_iff, List.isEmpty_iff_length_eq_zero, List.isEmpty_iff_length_eq_zero,
    hlength]

theorem outcome_related (dialect : Dialect) (column : String) (clock : Clock) :
    Related SameCode (Predicate.Alike exact) ((builtin op).outcome op.clause dialect column values clock)
      ((builtin op).outcome op.clause dialect column others clock) := by
  have hprepared := prepare_readsAlike h
  rw [outcome, outcome, hprepared.length_eq]
  split
  · exact (Builtin.clause_related hprepared dialect column clock).bind fun _ _ hpq => hpq.matched
  · exact .error rfl

theorem contribute_sameIn {view : Statement → Statement} (column : String) (clock : Clock)
    (hview : ∀ s result other, Related SameCode (Predicate.Alike exact) result other →
      codedResult view (Statement.append s result) = codedResult view (Statement.append s other)) :
    SameIn view ((builtin op).contribute column values clock)
      ((builtin op).contribute column others clock) := by
  by_cases hcol : column = ""
  · rw [hcol]
    exact fun _ => rfl
  · intro s
    rw [Builtin.contribute_condition op hcol, Builtin.contribute_condition op hcol]
    exact hview s _ _ (outcome_related h s.dialect column clock)

end

/-- One value stands for the other with this operator. Of a supplied operator nothing is known, and it takes
no value for another. -/
def Respells : Operator → Value → Value → Prop
  | builtin op => op.Respells
  | custom _ => Eq

theorem alike_of_respells {op : Operator} {values others : List Value}
    (h : List.Forall₂ op.Respells values others) :
    op.accepts values = op.accepts others ∧ ∀ column clock,
      SameIn Statement.blank (op.contribute column values clock) (op.contribute column others clock) ∧
      (AreRegular values →
        SameButWording (op.contribute column values clock) (op.contribute column others clock)) := by
  cases op with
  | builtin op =>
    have hreads : List.Forall₂ (op.ReadsAlike (AreRegular values)) values others :=
      forall₂_imp_of_mem h fun v hv w _ hvw => Builtin.Respells.readsAlike hvw
        fun hregular t ht => hregular t (ht ▸ hv)
    refine ⟨accepts_eq_of_readsAlike hreads, fun column clock => ⟨?_, fun hregular => ?_⟩⟩
    · exact contribute_sameIn hreads column clock fun s _ _ h => s.append_sameIn_blank h
    · exact contribute_sameIn hreads column clock fun s _ _ h => s.append_sameButWording h hregular
  | custom op =>
    have hsame : values = others := by
      rwa [Respells, List.forall₂_eq_eq_eq] at h
    rw [hsame]
    exact ⟨rfl, fun _ _ => ⟨fun _ => rfl, fun _ _ => rfl⟩⟩

end Operator
end ReportFilters
