import ReportFilters.Proofs.Condition.Grammar

/-! Reading conditions by precedence. The reader keeps a stack of frames, one for each open
parenthesis: what was read of a disjunction, of the conjunction that is its last part, and of the
operand that is the last part of that. It reads whatever the grammar spells. -/

namespace ReportFilters.Condition

inductive Operand where
  | missing
  | plain
  | whole (F : Formula)
deriving DecidableEq

structure Frame where
  disjunction : Option Formula := none
  conjunction : Option Formula := none
  negations : Nat := 0
  operand : Operand := .missing
deriving DecidableEq

def negated : Nat → Formula → Formula
  | 0, F => F
  | n + 1, F => negated n (.not F)

def Operand.formula? : Operand → Option Formula
  | missing => none
  | plain => some .atom
  | whole F => some F

namespace Frame

def literal? (f : Frame) : Option Formula := f.operand.formula?.map (negated f.negations)

def term? (f : Frame) : Option Formula :=
  f.literal?.map fun F => (f.conjunction.map fun C => .and C F).getD F

def formula? (f : Frame) : Option Formula :=
  f.term?.map fun F => (f.disjunction.map fun D => .or D F).getD F

def isPlain (f : Frame) : Bool :=
  f.disjunction = none && f.conjunction = none && f.negations = 0
    && (f.operand = .missing || f.operand = .plain)

def addPlain? (f : Frame) : Option Frame :=
  match f.operand with
  | .whole _ => none
  | _ => some { f with operand := .plain }

def addClosed? (f inner : Frame) : Option Frame :=
  if inner.isPlain then f.addPlain?
  else if f.operand = .missing then inner.formula?.map fun F => { f with operand := .whole F }
  else none

end Frame

def step (t : Token) : List Frame → Option (List Frame)
  | [] => none
  | f :: outer =>
    match t with
    | .other => f.addPlain?.map (· :: outer)
    | .neg =>
      if f.operand = .missing then some ({ f with negations := f.negations + 1 } :: outer) else none
    | .conj => f.term?.map fun F => { disjunction := f.disjunction, conjunction := some F } :: outer
    | .disj => f.formula?.map fun F => { disjunction := some F } :: outer
    | .opening => some ({} :: f :: outer)
    | .closing =>
      match outer with
      | [] => none
      | g :: outer => (g.addClosed? f).map (· :: outer)

def run : List Token → List Frame → Option (List Frame)
  | [], stack => some stack
  | t :: rest, stack => (step t stack).bind (run rest)

def read? (ts : List Token) : Option Formula :=
  match run ts [{}] with
  | some [f] => f.formula?
  | _ => none

theorem run_append (ts us : List Token) (stack : List Frame) :
    run (ts ++ us) stack = (run ts stack).bind (run us) := by
  induction ts generalizing stack with
  | nil => rfl
  | cons t rest ih =>
    rw [List.cons_append, run, run]
    cases step t stack with
    | none => rfl
    | some next => exact ih next

theorem run_cons_of_step {t : Token} {rest : List Token} {stack next : List Frame}
    (h : step t stack = some next) : run (t :: rest) stack = run rest next := by
  rw [run, h]
  rfl

theorem run_append_of_run {ts us : List Token} {stack next : List Frame}
    (h : run ts stack = some next) : run (ts ++ us) stack = run us next := by
  rw [run_append, h]
  rfl

theorem Frame.formula?_of_isPlain {f : Frame} (h : f.isPlain) {F : Formula}
    (hF : f.formula? = some F) : F = .atom := by
  simp only [isPlain, Bool.and_eq_true, Bool.or_eq_true, decide_eq_true_eq] at h
  rcases h with ⟨⟨⟨hdisj, hconj⟩, hneg⟩, hmissing | hplain⟩
  · simp [formula?, term?, literal?, hmissing, Operand.formula?] at hF
  · simp [formula?, term?, literal?, hplain, Operand.formula?, hdisj, hconj, hneg, negated] at hF
    exact hF.symm

namespace Frame

def withPlain (f : Frame) : List Token → Frame
  | [] => f
  | _ :: _ => { f with operand := .plain }

theorem addPlain?_eq {f : Frame} (h : ∀ F, f.operand ≠ .whole F) :
    f.addPlain? = some { f with operand := .plain } := by
  unfold addPlain?
  split
  · exact absurd ‹_› (h _)
  · rfl

theorem withPlain_plain (f : Frame) (ts : List Token) :
    withPlain { f with operand := .plain } ts = { f with operand := .plain } := by
  cases ts <;> rfl

theorem isPlain_withPlain (ts : List Token) : (withPlain {} ts).isPlain := by
  cases ts <;> rfl

end Frame

theorem run_of_plain {ts : List Token} (h : Plain ts) {f : Frame} (hf : ∀ F, f.operand ≠ .whole F)
    (outer : List Frame) : run ts (f :: outer) = some (f.withPlain ts :: outer) := by
  induction h generalizing f outer with
  | nil => rfl
  | @other rest hrest ih =>
    have hstep : step .other (f :: outer) = some ({ f with operand := .plain } :: outer) := by
      rw [step, Frame.addPlain?_eq hf]
      rfl
    rw [run_cons_of_step hstep, ih (by simp), Frame.withPlain_plain]
    rfl
  | @group inner rest hinner hrest ihinner ihrest =>
    -- the frame inside holds words only, so closing it makes no operand of its own
    have hopen : step .opening (f :: outer) = some ({} :: f :: outer) := rfl
    have hclose : step .closing (Frame.withPlain {} inner :: f :: outer)
        = some ({ f with operand := .plain } :: outer) := by
      rw [step, Frame.addClosed?, if_pos (Frame.isPlain_withPlain inner), Frame.addPlain?_eq hf]
      rfl
    rw [run_cons_of_step hopen, run_append_of_run (ihinner (by simp) (f :: outer)),
      run_cons_of_step hclose, ihrest (by simp), Frame.withPlain_plain]
    rfl

/-- What the reader has done after tokens that the grammar has on a level, starting where an
expression of the level may begin. -/
def Level.Done : Level → List Token → Formula → Prop
  | .primary, ts, F => ∀ (f : Frame) outer, f.operand = .missing →
    ∃ o, run ts (f :: outer) = some ({ f with operand := o } :: outer) ∧ o.formula? = some F
  | .literal, ts, F => ∀ (f : Frame) outer, f.operand = .missing →
    ∃ g, run ts (f :: outer) = some (g :: outer) ∧ g.disjunction = f.disjunction ∧
      g.conjunction = f.conjunction ∧ g.literal? = some (negated f.negations F)
  | .conjunction, ts, F => ∀ disjunction outer,
    ∃ g, run ts ({ disjunction } :: outer) = some (g :: outer) ∧ g.disjunction = disjunction ∧
      g.term? = some F
  | .disjunction, ts, F => ∀ outer,
    ∃ g, run ts ({} :: outer) = some (g :: outer) ∧ g.formula? = some F

theorem Spells.done {level : Level} {ts : List Token} {F : Formula} (h : Spells level ts F) :
    level.Done ts F := by
  induction h with
  | @atom ts hne h =>
    intro f outer hf
    have hrun := run_of_plain h (by simp [hf]) outer (f := f)
    cases ts with
    | nil => exact absurd rfl hne
    | cons t rest => exact ⟨.plain, hrun, rfl⟩
  | @group ts F h ih =>
    intro f outer hf
    obtain ⟨g, hrun, hg⟩ := ih (f :: outer)
    have hopen : step .opening (f :: outer) = some ({} :: f :: outer) := rfl
    rw [run_cons_of_step hopen, run_append_of_run hrun]
    -- mere words in parentheses come out as part of an atom, which is the formula they spell
    by_cases hplain : g.isPlain
    · have hclose : step .closing (g :: f :: outer) = some ({ f with operand := .plain } :: outer) := by
        rw [step, Frame.addClosed?, if_pos hplain, Frame.addPlain?_eq (by simp [hf])]
        rfl
      rw [run_cons_of_step hclose, Frame.formula?_of_isPlain hplain hg]
      exact ⟨.plain, rfl, rfl⟩
    · have hclose : step .closing (g :: f :: outer)
          = some ({ f with operand := .whole F } :: outer) := by
        rw [step, Frame.addClosed?, if_neg hplain, if_pos hf, hg]
        rfl
      rw [run_cons_of_step hclose]
      exact ⟨.whole F, rfl, rfl⟩
  | bare h ih =>
    intro f outer hf
    obtain ⟨o, hrun, ho⟩ := ih f outer hf
    exact ⟨_, hrun, rfl, rfl, by rw [Frame.literal?, ho]; rfl⟩
  | not h ih =>
    intro f outer hf
    -- negations are counted until their operand is read
    have hneg : step .neg (f :: outer) = some ({ f with negations := f.negations + 1 } :: outer) :=
      if_pos hf
    rw [run_cons_of_step hneg]
    exact ih { f with negations := f.negations + 1 } outer hf
  | one h ih =>
    intro disjunction outer
    obtain ⟨g, hrun, hdisj, hconj, hlit⟩ := ih { disjunction } outer rfl
    exact ⟨g, hrun, hdisj, by rw [Frame.term?, hlit, hconj]; rfl⟩
  | @and ts us F G hF hG ihF ihG =>
    intro disjunction outer
    obtain ⟨f, hrun, hdisj, hterm⟩ := ihF disjunction outer
    have hstep : step .conj (f :: outer)
        = some ({ disjunction, conjunction := some F } :: outer) := by
      rw [step, hterm, hdisj]
      rfl
    obtain ⟨g, hrun', hdisj', hconj, hlit⟩ := ihG { disjunction, conjunction := some F } outer rfl
    rw [run_append_of_run hrun, run_cons_of_step hstep]
    exact ⟨g, hrun', hdisj', by rw [Frame.term?, hlit, hconj]; rfl⟩
  | only h ih =>
    intro outer
    obtain ⟨g, hrun, hdisj, hterm⟩ := ih none outer
    exact ⟨g, hrun, by rw [Frame.formula?, hterm, hdisj]; rfl⟩
  | @or ts us F G hF hG ihF ihG =>
    intro outer
    obtain ⟨f, hrun, hformula⟩ := ihF outer
    have hstep : step .disj (f :: outer) = some ({ disjunction := some F } :: outer) := by
      rw [step, hformula]
      rfl
    obtain ⟨g, hrun', hdisj, hterm⟩ := ihG (some F) outer
    rw [run_append_of_run hrun, run_cons_of_step hstep]
    exact ⟨g, hrun', by rw [Frame.formula?, hterm, hdisj]; rfl⟩

theorem Spells.read? {ts : List Token} {F : Formula} (h : Spells .disjunction ts F) :
    read? ts = some F := by
  obtain ⟨g, hrun, hg⟩ := h.done []
  rw [Condition.read?, hrun]
  exact hg

end ReportFilters.Condition
