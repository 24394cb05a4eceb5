/-! Steps on a state that may fail, applied to it. A failed step leaves the state as it was when it failed. -/

namespace ReportFilters

variable {ε σ α β : Type}

@[simp] theorem get_apply (s : σ) : (get : EStateM ε σ σ) s = .ok s s := rfl

@[simp] theorem modify_apply (f : σ → σ) (s : σ) :
    (modify f : EStateM ε σ PUnit) s = .ok () (f s) := rfl

@[simp] theorem bind_apply (step : EStateM ε σ α) (next : α → EStateM ε σ β) (s : σ) :
    (step >>= next) s =
      match step s with
      | .ok a t => next a t
      | .error e t => .error e t := rfl

@[simp] theorem adaptExcept_apply {ε' : Type} (f : ε → ε') (step : EStateM ε σ α) (s : σ) :
    EStateM.adaptExcept f step s =
      match step s with
      | .ok a t => .ok a t
      | .error e t => .error (f e) t := by
  unfold EStateM.adaptExcept
  cases step s <;> rfl

@[simp] theorem forM_cons_apply (f : α → EStateM ε σ PUnit) (a : α) (rest : List α) (s : σ) :
    (a :: rest).forM f s =
      match f a s with
      | .ok _ t => rest.forM f t
      | .error e t => .error e t := by
  rw [List.forM, bind_apply]
  cases f a s <;> rfl

end ReportFilters
