import Mathlib.Data.List.Forall2

/-! Steps that may fail, taken one after the other, and lists related entry by entry. -/

namespace ReportFilters

@[simp] theorem ok_bind (a : α) (f : α → Except ε β) : Except.ok a >>= f = f a := rfl

@[simp] theorem error_bind (e : ε) (f : α → Except ε β) : Except.error e >>= f = .error e := rfl

@[simp] theorem map_ok (f : α → β) (a : α) : f <$> (Except.ok a : Except ε α) = .ok (f a) := rfl

theorem exists_of_bind_eq_ok {x : Except ε α} {f : α → Except ε β} {b : β}
    (h : x >>= f = .ok b) : ∃ a, x = .ok a ∧ f a = .ok b := by
  cases x with
  | error e => cases h
  | ok a => exact ⟨a, rfl, h⟩

theorem exists_eq_ok_iff {x : Except ε α} : (∃ a, x = .ok a) ↔ ∀ e, x ≠ .error e := by
  cases x <;> simp

theorem error_eq_error_iff {e e' : ε} : (Except.error e' : Except ε α) = .error e ↔ e = e' := by
  rw [Except.error.injEq, eq_comm]

theorem bind_eq_error_iff {x : Except ε α} {f : α → Except ε β} {e : ε} :
    x >>= f = .error e ↔ x = .error e ∨ ∃ a, x = .ok a ∧ f a = .error e := by
  cases x <;> simp

@[simp] theorem mapError_eq_ok {x : Except ε α} {f : ε → ε'} {a : α} :
    x.mapError f = .ok a ↔ x = .ok a := by
  cases x <;> simp [Except.mapError]

/-- Both fail with related errors, or both give related results. -/
inductive Related (E : ε → ε → Prop) (R : α → α → Prop) : Except ε α → Except ε α → Prop
  | error {e e' : ε} (h : E e e') : Related E R (.error e) (.error e')
  | ok {a a' : α} (h : R a a') : Related E R (.ok a) (.ok a')

namespace Related

variable {E : ε → ε → Prop} {R : α → α → Prop} {x y : Except ε α}

theorem refl (hE : ∀ e, E e e) (hR : ∀ a, R a a) (x : Except ε α) : Related E R x x := by
  cases x with
  | error e => exact .error (hE e)
  | ok a => exact .ok (hR a)

theorem bind {S : β → β → Prop} {f g : α → Except ε β} (h : Related E R x y)
    (hnext : ∀ a b, R a b → Related E S (f a) (g b)) : Related E S (x >>= f) (y >>= g) := by
  cases h with
  | error h => exact .error h
  | ok h => exact hnext _ _ h

theorem map {S : β → β → Prop} {f g : α → β} (h : Related E R x y)
    (hstep : ∀ a b, R a b → S (f a) (g b)) : Related E S (x.map f) (y.map g) := by
  cases h with
  | error h => exact .error h
  | ok h => exact .ok (hstep _ _ h)

theorem mapError {E' : ε' → ε' → Prop} {f : ε → ε'} (h : Related E R x y)
    (hstep : ∀ e e', E e e' → E' (f e) (f e')) :
    Related E' R (x.mapError f) (y.mapError f) := by
  cases h with
  | error h => exact .error (hstep _ _ h)
  | ok h => exact .ok h

end Related

theorem eq_ok_of_toOption_eq_some {x : Except ε α} {a : α} (h : x.toOption = some a) : x = .ok a := by
  cases x with
  | error e => cases h
  | ok b => rw [Option.some.inj h]

theorem forall₂_of_mapM {f : α → Except ε β} {as : List α} {bs : List β}
    (h : as.mapM f = .ok bs) : List.Forall₂ (fun a b => f a = .ok b) as bs := by
  induction as generalizing bs with
  | nil =>
    cases h
    exact .nil
  | cons a rest ih =>
    rw [List.mapM_cons] at h
    obtain ⟨b, hb, h⟩ := exists_of_bind_eq_ok h
    obtain ⟨more, hmore, h⟩ := exists_of_bind_eq_ok h
    cases h
    exact .cons hb (ih hmore)

theorem exists_of_forall₂_right {R : α → β → Prop} {as : List α} {bs : List β} (h : List.Forall₂ R as bs)
    {b : β} (hb : b ∈ bs) : ∃ a ∈ as, R a b := by
  induction h with
  | nil => cases hb
  | cons hR _ ih =>
    rcases List.mem_cons.mp hb with rfl | hb
    · exact ⟨_, List.mem_cons_self .., hR⟩
    · obtain ⟨a, ha, hab⟩ := ih hb
      exact ⟨a, List.mem_cons_of_mem _ ha, hab⟩

theorem exists_of_mapM_eq_some {f : α → Option β} {as : List α} {bs : List β} (h : as.mapM f = some bs)
    {b : β} (hb : b ∈ bs) : ∃ a ∈ as, f a = some b := by
  induction as generalizing bs with
  | nil =>
    cases h
    cases hb
  | cons a rest ih =>
    rw [List.mapM_cons] at h
    obtain ⟨first, hfirst, h⟩ := Option.bind_eq_some_iff.mp h
    obtain ⟨more, hmore, h⟩ := Option.bind_eq_some_iff.mp h
    cases h
    rcases List.mem_cons.mp hb with rfl | hb
    · exact ⟨a, List.mem_cons_self .., hfirst⟩
    · obtain ⟨a, ha, hab⟩ := ih hmore hb
      exact ⟨a, List.mem_cons_of_mem _ ha, hab⟩

theorem exists_mapM_eq_ok_iff {f : α → Except ε β} {as : List α} :
    (∃ bs, as.mapM f = .ok bs) ↔ ∀ a ∈ as, ∃ b, f a = .ok b := by
  constructor
  · rintro ⟨bs, hbs⟩ a ha
    obtain ⟨b, _, hb⟩ := exists_of_forall₂_right (forall₂_of_mapM hbs).flip ha
    exact ⟨b, hb⟩
  · intro h
    induction as with
    | nil => exact ⟨[], rfl⟩
    | cons a rest ih =>
      obtain ⟨b, hb⟩ := h a (List.mem_cons_self ..)
      obtain ⟨bs, hbs⟩ := ih fun a ha => h a (List.mem_cons_of_mem _ ha)
      refine ⟨b :: bs, ?_⟩
      rw [List.mapM_cons, hb, hbs]
      rfl

theorem mapM_eq_error_of_not_forall {f : α → Except ε β} {p : α → Prop} {e : ε} {as : List α}
    (hok : ∀ a, p a → ∃ b, f a = .ok b) (herror : ∀ a, ¬p a → f a = .error e) (h : ¬∀ a ∈ as, p a) :
    as.mapM f = .error e := by
  induction as with
  | nil => exact absurd (List.forall_mem_nil p) h
  | cons a rest ih =>
    rw [List.mapM_cons]
    by_cases ha : p a
    · obtain ⟨b, hb⟩ := hok a ha
      have hrest : ¬∀ c ∈ rest, p c := fun hall => h (List.forall_mem_cons.mpr ⟨ha, hall⟩)
      rw [hb, ih hrest]
      rfl
    · rw [herror a ha]
      rfl

theorem mapM_eq_error_iff {f : α → Except ε β} {as : List α} {e : ε} :
    as.mapM f = .error e ↔ ∃ before a after, as = before ++ a :: after ∧
      (∀ b ∈ before, ∃ v, f b = .ok v) ∧ f a = .error e := by
  constructor
  · intro h
    induction as with
    | nil => cases h
    | cons a rest ih =>
      rw [List.mapM_cons] at h
      cases ha : f a with
      | error e' =>
        rw [ha] at h
        cases h
        exact ⟨[], a, rest, rfl, fun _ hb => (nomatch hb), ha⟩
      | ok v =>
        cases hrest : rest.mapM f with
        | error e' =>
          rw [ha, hrest] at h
          cases h
          obtain ⟨before, b, after, rfl, hbefore, hb⟩ := ih hrest
          exact ⟨a :: before, b, after, rfl, List.forall_mem_cons.mpr ⟨⟨v, ha⟩, hbefore⟩, hb⟩
        | ok vs =>
          rw [ha, hrest] at h
          cases h
  · rintro ⟨before, a, after, rfl, hbefore, ha⟩
    obtain ⟨vs, hvs⟩ := exists_mapM_eq_ok_iff.mpr hbefore
    rw [List.mapM_append, hvs, List.mapM_cons, ha]
    rfl

theorem mapM_congr_of_forall₂ {f : α → Except ε β} {g : α' → Except ε β} {as : List α} {as' : List α'}
    (h : List.Forall₂ (fun a a' => f a = g a') as as') : as.mapM f = as'.mapM g := by
  induction h with
  | nil => rfl
  | cons hstep _ ih => rw [List.mapM_cons, List.mapM_cons, hstep, ih]

theorem map_eq_self_iff {f : α → α} {as : List α} : as.map f = as ↔ ∀ a ∈ as, f a = a := by
  have h := @List.map_inj_left _ _ as f id
  rwa [List.map_id] at h

theorem map_eq_of_forall₂ {R : α → α' → Prop} {f : α → β} {g : α' → β} {as : List α} {as' : List α'}
    (h : List.Forall₂ R as as') (hstep : ∀ a a', R a a' → f a = g a') : as.map f = as'.map g := by
  induction h with
  | nil => rfl
  | cons hR _ ih => rw [List.map_cons, List.map_cons, hstep _ _ hR, ih]

theorem map_eq_of_forall₂_forall₂ {R : α → α' → Prop} {P : α → β → Prop} {P' : α' → β' → Prop}
    {f : β → γ} {g : β' → γ} {as : List α} {as' : List α'} {bs : List β} {bs' : List β'}
    (h : List.Forall₂ R as as') (hbs : List.Forall₂ P as bs) (hbs' : List.Forall₂ P' as' bs')
    (hstep : ∀ a a' b b', R a a' → P a b → P' a' b' → f b = g b') : bs.map f = bs'.map g := by
  induction h generalizing bs bs' with
  | nil =>
    cases hbs
    cases hbs'
    rfl
  | cons hR _ ih =>
    cases hbs with
    | cons hP hbs =>
      cases hbs' with
      | cons hP' hbs' => rw [List.map_cons, List.map_cons, hstep _ _ _ _ hR hP hP', ih hbs hbs']

theorem forall₂_imp_of_mem {R S : α → β → Prop} {as : List α} {bs : List β} (h : List.Forall₂ R as bs)
    (himp : ∀ a ∈ as, ∀ b ∈ bs, R a b → S a b) : List.Forall₂ S as bs := by
  induction h with
  | nil => exact .nil
  | cons hR _ ih =>
    refine .cons (himp _ (List.mem_cons_self ..) _ (List.mem_cons_self ..) hR) (ih ?_)
    exact fun a ha b hb => himp a (List.mem_cons_of_mem _ ha) b (List.mem_cons_of_mem _ hb)

theorem getElem?_rel {R : α → β → Prop} {as : List α} {bs : List β} (h : List.Forall₂ R as bs)
    (index : Nat) : Option.Rel R as[index]? bs[index]? := by
  induction h generalizing index with
  | nil => exact .none
  | cons hR _ ih =>
    cases index with
    | zero => exact .some hR
    | succ index => simpa only [List.getElem?_cons_succ] using ih index

end ReportFilters
