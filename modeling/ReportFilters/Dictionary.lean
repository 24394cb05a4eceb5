/-! Entries under names, in the order in which the names were first used. -/

namespace ReportFilters

abbrev Dictionary (α : Type) := List (String × α)

namespace Dictionary

variable {α β γ : Type}

def get? (d : Dictionary α) (name : String) : Option α :=
  match d with
  | [] => none
  | (n, a) :: rest => if n = name then some a else get? rest name

def has (d : Dictionary α) (name : String) : Bool := (d.get? name).isSome

/-- A name already in use keeps its place. -/
def put (d : Dictionary α) (name : String) (a : α) : Dictionary α :=
  match d with
  | [] => [(name, a)]
  | (n, b) :: rest => if n = name then (name, a) :: rest else (n, b) :: put rest name a

def names (d : Dictionary α) : List String := d.map Prod.fst

theorem get?_put (d : Dictionary α) (name other : String) (a : α) :
    (d.put name a).get? other = if other = name then some a else d.get? other := by
  induction d with
  | nil => grind [put, get?]
  | cons entry rest ih => grind [put, get?]

theorem names_put (d : Dictionary α) (name : String) (a : α) :
    (d.put name a).names = if name ∈ d.names then d.names else d.names ++ [name] := by
  induction d with
  | nil => simp [put, names]
  | cons entry rest ih => grind [put, names]

theorem put_of_not_mem {d : Dictionary α} {name : String} (h : name ∉ d.names) (a : α) :
    d.put name a = d ++ [(name, a)] := by
  induction d with
  | nil => rfl
  | cons entry rest ih => grind [put, names]

theorem get?_map (d : Dictionary α) (f : String → α → β) (name : String) :
    get? (d.map fun (n, a) => (n, f n a)) name = (d.get? name).map (f name) := by
  induction d with
  | nil => rfl
  | cons entry rest ih => grind [get?]

theorem get?_filterMap (d : Dictionary α) (f : String → Option β) (g : α → β → γ) (name : String) :
    get? (d.filterMap fun (n, a) => (f n).map fun b => (n, g a b)) name
      = (d.get? name).bind fun a => (f name).map (g a) := by
  induction d with
  | nil => rfl
  | cons entry rest ih =>
    obtain ⟨n, a⟩ := entry
    cases hf : f n with
    | none =>
      rw [List.filterMap_cons_none (by simp [hf]), ih, get?]
      by_cases h : n = name
      · subst h
        simp [hf]
      · rw [if_neg h]
    | some b =>
      rw [List.filterMap_cons_some (b := (n, g a b)) (by simp [hf]), get?, get?, ih]
      by_cases h : n = name
      · subst h
        simp [hf]
      · rw [if_neg h, if_neg h]

theorem get?_eq_none_iff (d : Dictionary α) (name : String) : d.get? name = none ↔ name ∉ d.names := by
  induction d with
  | nil => simp [get?, names]
  | cons entry rest ih => grind [get?, names]

theorem get?_of_mem {d : Dictionary α} (h : d.names.Nodup) {name : String} {a : α}
    (hmem : (name, a) ∈ d) : d.get? name = some a := by
  induction d with
  | nil => cases hmem
  | cons entry rest ih =>
    obtain ⟨hn, hrest⟩ := List.nodup_cons.mp h
    rw [get?]
    rcases List.mem_cons.mp hmem with rfl | hmem
    · exact if_pos rfl
    · rw [if_neg, ih hrest hmem]
      intro heq
      exact hn (heq ▸ List.mem_map_of_mem hmem)

theorem get?_foldl_put {d : Dictionary α} (h : d.names.Nodup) (base : Dictionary α) (name : String) :
    (d.foldl (fun d (n, a) => put d n a) base).get? name = (d.get? name).or (base.get? name) := by
  induction d generalizing base with
  | nil => rfl
  | cons entry rest ih =>
    obtain ⟨n, a⟩ := entry
    obtain ⟨hn, hrest⟩ := List.nodup_cons.mp h
    rw [List.foldl_cons, ih hrest, get?_put, get?]
    by_cases heq : n = name
    · subst heq
      rw [(get?_eq_none_iff rest n).mpr hn]
      simp
    · simp [heq, Ne.symm heq]

end Dictionary
end ReportFilters
