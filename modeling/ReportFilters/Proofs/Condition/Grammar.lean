/-! Conditions as they are meant. A condition is spelled with atoms, `not`, `and`, `or` and
parentheses, where `not` binds closest and `or` loosest. An atom may hold parentheses of its own but
no keyword. Truth values are given to the atoms in the order in which they stand. -/

namespace ReportFilters.Condition

inductive Formula where
  | atom
  | not (F : Formula)
  | and (F G : Formula)
  | or (F G : Formula)
deriving DecidableEq

namespace Formula

def size : Formula → Nat
  | atom => 1
  | not F => F.size
  | and F G => F.size + G.size
  | or F G => F.size + G.size

/-- Atoms are numbered from zero. -/
def value (v : Nat → Bool) : Formula → Bool
  | atom => v 0
  | not F => !F.value v
  | and F G => F.value v && G.value fun i => v (F.size + i)
  | or F G => F.value v || G.value fun i => v (F.size + i)

def allHold (v : Nat → Bool) : List Formula → Bool
  | [] => true
  | F :: rest => F.value v && allHold (fun i => v (F.size + i)) rest

end Formula

inductive Token where
  | conj
  | disj
  | neg
  | opening
  | closing
  /-- Any other word, or text in quotes. -/
  | other
deriving DecidableEq

/-- No keywords, and parentheses in pairs. -/
inductive Plain : List Token → Prop
  | nil : Plain []
  | other {rest : List Token} (hrest : Plain rest) : Plain (.other :: rest)
  | group {inner rest : List Token} (hinner : Plain inner) (hrest : Plain rest) :
    Plain (.opening :: (inner ++ .closing :: rest))

inductive Level where
  | primary | literal | conjunction | disjunction
deriving DecidableEq

/-- The tokens spell the formula, with no operator outside parentheses that binds looser than the
level has it. -/
inductive Spells : Level → List Token → Formula → Prop
  | atom {ts : List Token} (hne : ts ≠ []) (h : Plain ts) : Spells .primary ts .atom
  | group {ts : List Token} {F : Formula} (h : Spells .disjunction ts F) :
    Spells .primary (.opening :: (ts ++ [.closing])) F
  | bare {ts : List Token} {F : Formula} (h : Spells .primary ts F) : Spells .literal ts F
  | not {ts : List Token} {F : Formula} (h : Spells .literal ts F) :
    Spells .literal (.neg :: ts) (.not F)
  | one {ts : List Token} {F : Formula} (h : Spells .literal ts F) : Spells .conjunction ts F
  | and {ts us : List Token} {F G : Formula} (hF : Spells .conjunction ts F)
    (hG : Spells .literal us G) : Spells .conjunction (ts ++ .conj :: us) (.and F G)
  | only {ts : List Token} {F : Formula} (h : Spells .conjunction ts F) : Spells .disjunction ts F
  | or {ts us : List Token} {F G : Formula} (hF : Spells .disjunction ts F)
    (hG : Spells .conjunction us G) : Spells .disjunction (ts ++ .disj :: us) (.or F G)

theorem Spells.conjoin {ts us : List Token} {F G : Formula} (hF : Spells .conjunction ts F)
    (hG : Spells .conjunction us G) :
    ∃ H, Spells .conjunction (ts ++ .conj :: us) H ∧ H.size = F.size + G.size ∧
      ∀ v, H.value v = (F.value v && G.value fun i => v (F.size + i)) := by
  generalize hlevel : Level.conjunction = level at hG
  induction hG with
  | one hG => exact ⟨.and F _, .and hF hG, rfl, fun v => rfl⟩
  | @and us ws G K hG hK ih _ =>
    obtain ⟨H, hH, hsize, hvalue⟩ := ih rfl
    refine ⟨.and H K, ?_, ?_, ?_⟩
    · rw [← List.cons_append, ← List.append_assoc]
      exact .and hH hK
    · simp only [Formula.size, hsize, Nat.add_assoc]
    · intro v
      simp only [Formula.value, hvalue, hsize, Bool.and_assoc, Nat.add_assoc]
  | _ => cases hlevel

/-! Disjunctions at the top. -/

def depthAfter (depth : Nat) (ts : List Token) : Nat :=
  ts.foldl (fun depth t =>
    match t with
    | .opening => depth + 1
    | .closing => depth - 1
    | _ => depth) depth

@[simp] theorem depthAfter_opening (depth : Nat) (rest : List Token) :
    depthAfter depth (.opening :: rest) = depthAfter (depth + 1) rest := rfl

@[simp] theorem depthAfter_closing (depth : Nat) (rest : List Token) :
    depthAfter depth (.closing :: rest) = depthAfter (depth - 1) rest := rfl

def hasDisj (depth : Nat) : List Token → Bool
  | [] => false
  | t :: rest => (t = .disj && depth = 0) || hasDisj (depthAfter depth [t]) rest

theorem hasDisj_append (depth : Nat) (ts us : List Token) :
    hasDisj depth (ts ++ us) = (hasDisj depth ts || hasDisj (depthAfter depth ts) us) := by
  induction ts generalizing depth with
  | nil => rfl
  | cons t rest ih =>
    rw [List.cons_append, hasDisj, ih, hasDisj, Bool.or_assoc]
    rfl

theorem depthAfter_append (depth : Nat) (ts us : List Token) :
    depthAfter depth (ts ++ us) = depthAfter (depthAfter depth ts) us := List.foldl_append

theorem Plain.depthAfter {ts : List Token} (h : Plain ts) (depth : Nat) :
    depthAfter depth ts = depth := by
  induction h generalizing depth with
  | nil => rfl
  | other hrest ih => exact ih depth
  | group hinner hrest ihinner ihrest =>
    rw [depthAfter_opening, depthAfter_append, ihinner, depthAfter_closing, Nat.add_sub_cancel]
    exact ihrest depth

theorem Spells.depthAfter {level : Level} {ts : List Token} {F : Formula} (h : Spells level ts F)
    (depth : Nat) : depthAfter depth ts = depth := by
  induction h generalizing depth with
  | atom hne h => exact h.depthAfter depth
  | group h ih =>
    rw [depthAfter_opening, depthAfter_append, ih, depthAfter_closing]
    rfl
  | bare h ih | one h ih | only h ih | not h ih => exact ih depth
  | and hF hG ihF ihG | or hF hG ihF ihG =>
    rw [depthAfter_append, ihF]
    exact ihG depth

theorem Spells.conjunction_of_not_hasDisj {ts : List Token} {F : Formula}
    (h : Spells .disjunction ts F) (hnone : hasDisj 0 ts = false) : Spells .conjunction ts F := by
  cases h with
  | only h => exact h
  | @or ts us F G hF hG =>
    rw [hasDisj_append, hF.depthAfter, hasDisj] at hnone
    simp at hnone

end ReportFilters.Condition
