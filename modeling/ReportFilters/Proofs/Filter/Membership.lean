import Mathlib.Logic.Relation
import ReportFilters.Filter.Edit
import ReportFilters.Proofs.Catalog.Offers

/-! Filters made from a built catalog. Their operators are operators of their type when they are made,
and no edit changes that: an edit keeps the type and assigns only what the type offers. -/

namespace ReportFilters

namespace Filter

def Edits : Filter → Filter → Prop := Relation.ReflTransGen fun f g => ∃ e, f.edit e = .ok g

theorem setOperator_eq_ok {f g : Filter} {token : String} (h : f.setOperator token = .ok g) :
    ∃ op ∈ f.type.operators, op.token = token ∧ g = { f with explicit := some op } := by
  rw [setOperator] at h
  split at h
  next op hop =>
    cases h
    have htoken := List.find?_some hop
    exact ⟨op, List.mem_of_find?_eq_some hop, of_decide_eq_true htoken, rfl⟩
  next => cases h

theorem setOperator_eq_error {f : Filter} {token : String} {e : Error}
    (h : f.setOperator token = .error e) :
    e = Error.operatorNotSupported f.name token ∧ token ∉ f.type.operators.map Operator.token := by
  rw [setOperator] at h
  split at h
  next => cases h
  next hnone =>
    cases h
    refine ⟨rfl, ?_⟩
    intro hmem
    obtain ⟨op, hop, htoken⟩ := List.mem_map.mp hmem
    exact absurd (List.find?_eq_none.mp hnone op hop) (by simpa using htoken)

theorem edits_edited (f : Filter) (es : List Edit) : f.Edits (f.edited es) := by
  induction es generalizing f with
  | nil => exact .refl
  | cons e rest ih =>
    rw [edited, editAll]
    cases hedit : f.edit e with
    | error failure => exact .refl
    | ok g => exact .head ⟨e, hedit⟩ (ih g)

theorem editAll_eq_failure {f g : Filter} {es : List Edit} {failure : Error}
    (h : f.editAll es = (g, some failure)) :
    ∃ done token later, es = done ++ .operator token :: later ∧ f.editAll done = (g, none) ∧
      g.setOperator token = .error failure := by
  induction es generalizing f with
  | nil => cases h
  | cons e rest ih =>
    rw [editAll] at h
    cases hedit : f.edit e with
    | error e' =>
      rw [hedit] at h
      cases h
      cases e with
      | operator token => exact ⟨[], token, rest, rfl, rfl, hedit⟩
      | values values => cases hedit
    | ok edited =>
      rw [hedit] at h
      obtain ⟨done, token, later, rfl, hdone, hfails⟩ := ih h
      refine ⟨e :: done, token, later, rfl, ?_, hfails⟩
      rw [editAll, hedit]
      exact hdone

structure Fits (catalog : Catalog) (f : Filter) : Prop where
  type : f.type ∈ catalog.types
  concrete : f.type.isAbstract = false
  default : f.default ∈ f.type.operators
  explicit : ∀ op ∈ f.explicit, op ∈ f.type.operators

theorem Fits.operator {catalog : Catalog} {f : Filter} (h : f.Fits catalog) :
    f.operator ∈ f.type.operators := by
  rw [Filter.operator]
  cases hexplicit : f.explicit with
  | none => exact h.default
  | some op => exact h.explicit op hexplicit

theorem Fits.edits {catalog : Catalog} {f g : Filter} (h : f.Fits catalog) (hedits : f.Edits g) :
    g.Fits catalog ∧ g.type = f.type ∧ g.default = f.default := by
  induction hedits with
  | refl => exact ⟨h, rfl, rfl⟩
  | tail _ hedit ih =>
    obtain ⟨hfits, htype, hdefault⟩ := ih
    obtain ⟨e, hedit⟩ := hedit
    cases e with
    | operator token =>
      obtain ⟨op, hop, _, rfl⟩ := setOperator_eq_ok hedit
      refine ⟨⟨hfits.type, hfits.concrete, hfits.default, ?_⟩, htype, hdefault⟩
      intro other hother
      cases (hother : some op = some other)
      exact hop
    | values values =>
      cases hedit
      exact ⟨⟨hfits.type, hfits.concrete, hfits.default, hfits.explicit⟩, htype, hdefault⟩

end Filter

namespace Catalog

theorem type?_of_type {catalog : Catalog} {name : String} {type : FilterType}
    (h : catalog.type name = .ok type) : catalog.type? name = some type := by
  rw [Catalog.type] at h
  split at h
  next hfound =>
    cases h
    exact hfound
  next => cases h

@[simp] theorem type_of_type? {catalog : Catalog} {name : String} {type : FilterType}
    (h : catalog.type? name = some type) : catalog.type name = .ok type := by
  rw [Catalog.type, h]

theorem newFilterDefaulting_eq_ok_iff {catalog : Catalog} {name fallback : String} {f : Filter} :
    catalog.newFilterDefaulting name fallback = .ok f ↔ ∃ type default,
      catalog.type? name = some type ∧ type.isAbstract = false ∧
      type.effectiveDefault fallback = some default ∧ f = { type, default } := by
  constructor
  · intro h
    obtain ⟨type, htype, h⟩ := exists_of_bind_eq_ok h
    split at h
    · cases h
    next hconcrete =>
      split at h
      next default hdefault =>
        cases h
        exact ⟨type, default, type?_of_type htype, by simpa using hconcrete, hdefault, rfl⟩
      next => cases h
  · rintro ⟨type, default, htype, hconcrete, hdefault, rfl⟩
    rw [newFilterDefaulting, type_of_type? htype, ok_bind, hconcrete, hdefault]
    rfl

theorem buildFilter_some {catalog : Catalog} {name fallback : String} {new : Filter}
    (h : catalog.newFilterDefaulting name fallback = .ok new) (token : String) (values : List Value) :
    catalog.buildFilter name fallback (some token) values =
      (catalog.assignOperator new name token).map (·.setValues values) := by
  rw [buildFilter, h, ok_bind]
  dsimp only
  cases catalog.assignOperator new name token <;> rfl

theorem exists_edits_of_buildFilter {catalog : Catalog} {name fallback : String}
    {operator : Option String} {values : List Value} {f : Filter}
    (h : catalog.buildFilter name fallback operator values = .ok f) :
    ∃ new, catalog.newFilterDefaulting name fallback = .ok new ∧ new.Edits f := by
  have hvalues : ∀ g : Filter, g.Edits (g.setValues values) := fun g => .single ⟨.values values, rfl⟩
  rw [buildFilter] at h
  obtain ⟨new, hnew, h⟩ := exists_of_bind_eq_ok h
  refine ⟨new, hnew, ?_⟩
  cases operator with
  | none =>
    cases h
    exact hvalues new
  | some token =>
    obtain ⟨assigned, hassigned, h⟩ := exists_of_bind_eq_ok h
    cases h
    rw [assignOperator] at hassigned
    split at hassigned
    · exact .head ⟨.operator token, hassigned⟩ (hvalues assigned)
    · cases hassigned

section
variable {decls : List Declaration} {registry : Registry} {catalog : Catalog}
  (hsound : catalog.Sound decls registry) {name fallback : String} {f : Filter}
include hsound

theorem Sound.exists_newFilterDefaulting {type : FilterType} (htype : catalog.type? name = some type)
    (hconcrete : type.isAbstract = false) (fallback : String) :
    ∃ f, catalog.newFilterDefaulting name fallback = .ok f ∧ f.type = type := by
  obtain ⟨default, hdefault⟩ :=
    hsound.exists_effectiveDefault (List.mem_of_find?_eq_some htype) hconcrete fallback
  exact ⟨{ type, default },
    newFilterDefaulting_eq_ok_iff.mpr ⟨type, default, htype, hconcrete, hdefault, rfl⟩, rfl⟩

theorem Sound.newFilterDefaulting_eq_error {e : Error}
    (h : catalog.newFilterDefaulting name fallback = .error e) :
    (catalog.type? name = none ∧ e = Error.unknownFilterType name) ∨
      ∃ type, catalog.type? name = some type ∧ type.isAbstract = true ∧
        e = Error.abstractConstruction name := by
  cases htype : catalog.type? name with
  | none =>
    rw [newFilterDefaulting, Catalog.type, htype] at h
    cases h
    exact .inl ⟨rfl, rfl⟩
  | some type =>
    cases habstract : type.isAbstract with
    | true =>
      rw [newFilterDefaulting, type_of_type? htype, ok_bind, habstract] at h
      cases h
      exact .inr ⟨type, rfl, habstract, rfl⟩
    | false =>
      obtain ⟨f, hf, _⟩ := hsound.exists_newFilterDefaulting htype habstract fallback
      cases hf.symm.trans h

theorem Sound.fits_of_newFilterDefaulting (h : catalog.newFilterDefaulting name fallback = .ok f) :
    f.Fits catalog ∧ f.type.effectiveDefault fallback = some f.default := by
  obtain ⟨type, default, htype, hconcrete, hdefault, rfl⟩ := newFilterDefaulting_eq_ok_iff.mp h
  have hmem := List.mem_of_find?_eq_some htype
  refine ⟨⟨hmem, hconcrete, hsound.mem_of_effectiveDefault hmem hdefault, ?_⟩, hdefault⟩
  rintro op ⟨⟩

theorem Sound.fits_of_buildFilter {operator : Option String} {values : List Value}
    (h : catalog.buildFilter name fallback operator values = .ok f) :
    f.Fits catalog ∧ f.type.effectiveDefault fallback = some f.default := by
  obtain ⟨new, hnew, hedits⟩ := exists_edits_of_buildFilter h
  obtain ⟨hfits, hdefault⟩ := hsound.fits_of_newFilterDefaulting hnew
  obtain ⟨hfits, htype, hsame⟩ := hfits.edits hedits
  rw [htype, hsame]
  exact ⟨hfits, hdefault⟩

end

end Catalog
end ReportFilters
