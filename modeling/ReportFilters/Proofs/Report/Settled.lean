import ReportFilters.Proofs.Json.Finite
import ReportFilters.Proofs.Report.Stored

/-! Definitions that were read from text. However they were written, writing them again and reading that
changes none of their values but double precision numbers, and of these only such as are not read back
from their own text. -/

namespace ReportFilters

def Json.Number.real? : Json.Number → Option Binary64
  | .int i => some (Binary64.ofInt i.toInt)
  | .real value => value

def Binary64.IsReadBack (x : Binary64) : Prop :=
  ∃ n, Json.parse? (Json.writeReal x) = some (.number n) ∧ n.real? = some x

namespace Value

theorem reread_float_eq_self_iff {x : Binary64} (h : x.IsFinite) :
    (float x).reread = float x ↔ x.IsReadBack := by
  obtain ⟨y, hy⟩ : ∃ y, Json.Reads (Json.writeReal x) (.number (.real (some y))) := by
    cases h with
    | intro negative exact => exact Json.exists_reads_writeReal negative exact
  rw [reread_float hy rfl, float.injEq]
  constructor
  · rintro rfl
    exact ⟨_, hy.parse?, rfl⟩
  · rintro ⟨n, hn, hreal⟩
    cases hy.parse?.symm.trans hn
    exact Option.some.inj hreal

def IsRead (v : Value) : Prop := ∃ j : Json, j.IsFinite ∧ ofJson? j = some v

theorem isKept_ofStoredText (s : String) : (ofStoredText s).IsKept := by
  rw [ofStoredText]
  split
  next ht => exact Calendar.of_looseInstantOfText? ht
  next ht =>
    split
    next => exact True.intro
    next hd => exact ⟨ht, hd⟩

/-- Of the values that are read only numbers of double precision may come back as others: a text that was
read as a text is no instant and no day, and an instant that was read is written as the same instant. -/
theorem IsRead.isKept {v : Value} (h : v.IsRead)
    (hback : ∀ x, v = float x → x.IsFinite → x.IsReadBack) : v.IsKept := by
  obtain ⟨j, hj, hread⟩ := h
  cases hj with
  | null | bool b =>
    cases hread
    exact True.intro
  | list _ | table _ => cases hread
  | string s =>
    obtain ⟨s, rfl, rfl⟩ := Option.map_eq_some_iff.mp hread
    exact isKept_ofStoredText s
  | number hn =>
    cases hn with
    | int i =>
      cases hread
      exact True.intro
    | real hfinite =>
      obtain ⟨x, rfl, rfl⟩ := Option.map_eq_some_iff.mp hread
      have hx := hfinite x rfl
      exact (reread_float_eq_self_iff hx).mpr (hback x rfl hx)

theorem IsRead.isStorable {v : Value} (h : v.IsRead) : v.IsStorable := by
  cases v with
  | instant t => exact (h.isKept fun x hx => nomatch hx).isStorable
  | _ => exact True.intro

end Value

section
open Json (IsFinite)
variable {j : Json} {spec : FilterSpec}

theorem Json.isFinite_of_entry? {entries : List (Option String × Json)} {name : String} {found : Option Json}
    (h : ∀ entry ∈ entries, IsFinite entry.2) (hfound : entry? entries name = some found) :
    ∀ j ∈ found, j.IsFinite := by
  rintro j rfl
  unfold entry? at hfound
  split at hfound
  next => cases hfound
  next hnamed =>
    cases hfound
    have hmem : j ∈ entriesNamed entries name := by
      rw [hnamed]
      exact List.mem_singleton_self j
    obtain ⟨entry, hentry, rfl⟩ := List.mem_map.mp hmem
    exact h entry (List.mem_of_mem_filter hentry)
  next => cases hfound

theorem Value.isRead_of_listOfJson? {values : List Value} (hj : j.IsFinite)
    (h : listOfJson? j = some values) : ∀ v ∈ values, v.IsRead := by
  intro v hv
  cases hj with
  | list hitems =>
    obtain ⟨item, hitem, hread⟩ := exists_of_mapM_eq_some h hv
    exact ⟨item, hitems item hitem, hread⟩
  | null | bool _ | number _ | string _ | table _ => cases h

theorem FilterSpec.isRead_of_ofParts? {name operator values : Option Json}
    (hvalues : ∀ j ∈ values, j.IsFinite) (h : ofParts? name operator values = some spec) :
    ∀ v ∈ spec.values, v.IsRead := by
  simp only [ofParts?, Option.bind_eq_bind, Option.bind_eq_some_iff] at h
  obtain ⟨_, _, _, _, _, _, found, hfound, h⟩ := h
  cases h
  cases values with
  | none =>
    cases hfound
    exact List.forall_mem_nil _
  | some j => exact Value.isRead_of_listOfJson? (hvalues j rfl) hfound

theorem FilterSpec.isRead_of_ofJson? (hj : j.IsFinite) (h : ofJson? j = some spec) :
    ∀ v ∈ spec.values, v.IsRead := by
  cases hj with
  | null | bool _ | number _ | string _ => cases h
  | table hentries =>
    obtain ⟨-, h⟩ := Option.ite_none_left_eq_some.mp h
    simp only [Option.bind_eq_bind, Option.bind_eq_some_iff] at h
    obtain ⟨_, _, _, _, _, hfound, h⟩ := h
    exact isRead_of_ofParts? (Json.isFinite_of_entry? hentries hfound) h
  | @list items hitems =>
    simp only [ofJson?.eq_def] at h
    split at h
    next => exact isRead_of_ofParts? (by simp) h
    next => exact isRead_of_ofParts? (by simp) h
    next name operator values => exact isRead_of_ofParts? (by simpa using hitems values (by simp)) h
    next => cases h

namespace ReportSpec

theorem isRead_of_filtersOfJson? {filters : List FilterSpec} (hj : j.IsFinite)
    (h : filtersOfJson? j = some filters) : ∀ f ∈ filters, ∀ v ∈ f.values, v.IsRead := by
  intro f hf
  cases hj with
  | list hitems =>
    obtain ⟨item, hitem, hread⟩ := exists_of_mapM_eq_some h hf
    exact FilterSpec.isRead_of_ofJson? (hitems item hitem) hread
  | null | bool _ | number _ | string _ | table _ => cases h

theorem isRead_of_ofJsonTree? {spec : ReportSpec} (hj : j.IsFinite) (h : ofJsonTree? j = some spec) :
    ∀ f ∈ spec.filters, ∀ v ∈ f.values, v.IsRead := by
  cases hj with
  | null | bool _ | number _ | string _ => cases h
  | table hentries =>
    obtain ⟨-, h⟩ := Option.ite_none_left_eq_some.mp h
    simp only [Option.bind_eq_bind, Option.bind_eq_some_iff] at h
    obtain ⟨found, hfound, filters, hfilters, h⟩ := h
    cases h
    cases found with
    | none =>
      cases hfilters
      exact List.forall_mem_nil _
    | some j => exact isRead_of_filtersOfJson? (Json.isFinite_of_entry? hentries hfound j rfl) hfilters
  | @list items hitems =>
    simp only [ofJsonTree?.eq_def] at h
    split at h
    next =>
      cases h
      exact List.forall_mem_nil _
    next =>
      obtain ⟨filters, hfilters, rfl⟩ := Option.map_eq_some_iff.mp h
      exact isRead_of_filtersOfJson? (hitems _ (List.mem_singleton_self _)) hfilters
    next => cases h

theorem isRead_of_ofJson {text : String} {spec : ReportSpec} (h : ofJson text = .ok spec) :
    ∀ f ∈ spec.filters, ∀ v ∈ f.values, v.IsRead := by
  rw [ofJson] at h
  split at h
  next found htree =>
    cases h
    obtain ⟨j, hj, htree⟩ := Option.bind_eq_some_iff.mp htree
    exact isRead_of_ofJsonTree? (Json.isFinite_of_parse? hj) htree
  next => cases h

end ReportSpec
end

theorem FilterSpec.reread_eq_self_iff (spec : FilterSpec) :
    spec.reread = spec ↔ ∀ v ∈ spec.values, v.IsKept := by
  simp only [← Value.reread_eq_self_iff]
  rw [← map_eq_self_iff, reread]
  constructor
  · exact congrArg FilterSpec.values
  · intro h
    rw [h]

namespace ReportSpec

/-- A definition that was read from any text has a text, and is read again from it with the names, operators
and values that it has. Only a finite number that its own text is not read as is another after that; no
definition holds an infinite one. -/
theorem ofJson_json_eq_ok_iff {text : String} {spec : ReportSpec} (h : ofJson text = .ok spec) :
    ∃ written again, spec.json = .ok written ∧ ofJson written = .ok again ∧ (again = spec ↔
      ∀ f ∈ spec.filters, ∀ x, Value.float x ∈ f.values → x.IsFinite → x.IsReadBack) := by
  have hread := isRead_of_ofJson h
  have hstorable : spec.IsStorable := fun f hf v hv => (hread f hf v hv).isStorable
  obtain ⟨written, hwritten, hagain⟩ := exists_ofJson_json hstorable
  refine ⟨written, _, hwritten, hagain, ?_⟩
  obtain ⟨filters⟩ := spec
  rw [ReportSpec.reread, mk.injEq, map_eq_self_iff]
  refine forall₂_congr fun f hf => ?_
  rw [f.reread_eq_self_iff]
  constructor
  · intro hkept x hx hfinite
    exact (Value.reread_float_eq_self_iff hfinite).mp (hkept _ hx)
  · intro hback v hv
    exact (hread f hf v hv).isKept fun x hx => hback x (hx ▸ hv)

def looseNote : String :=
  "[[[\"note\", null, [-0, 18446744073709551615, \"2024-06-30 23:59:60 +0200\", \"2024-5-1\", \"May\"]]]]"

def looseNoteShown : List (String × Option String × String) :=
  [("note", none, "[Float(-0.0), Float(1.8446744073709552e19), DateTime(2024-06-30T23:59:60+02:00), " ++
    "Date(2024-05-01), String(\"May\")]")]

theorem exists_settled_looseNote : ∃ spec written, ofJson looseNote = .ok spec ∧
    spec.filters.map (fun f => (f.name, f.operator, Value.shownList f.values)) = looseNoteShown ∧
    spec.json = .ok written ∧ ofJson written = .ok spec := by
  have hrun : (ofJson looseNote).toOption.map (fun spec =>
      (spec.filters.map (fun f => (f.name, f.operator, Value.shownList f.values)),
        decide (∀ f ∈ spec.filters, ∀ v ∈ f.values, v.reread = v))) = some (looseNoteShown, true) := by
    decide +kernel
  obtain ⟨spec, hspec, hrun⟩ := Option.map_eq_some_iff.mp hrun
  obtain ⟨hshown, hkept⟩ := Prod.mk.inj hrun
  have hread := eq_ok_of_toOption_eq_some hspec
  obtain ⟨written, again, hwritten, hagain, hsame⟩ := ofJson_json_eq_ok_iff hread
  obtain rfl : again = spec := hsame.mpr fun f hf x hx hfinite =>
    (Value.reread_float_eq_self_iff hfinite).mp (of_decide_eq_true hkept f hf _ hx)
  exact ⟨again, written, hread, hshown, hwritten, hagain⟩

end ReportSpec

/-- The reader takes the number nearest to `1e-25` for a smaller one. -/
example : ∃ x : Binary64, x.IsFinite ∧ ¬x.IsReadBack := by
  obtain ⟨hexact, hmoved⟩ : ∃ h : Binary64.Exact (Binary64.nearest Binary64.unitsPerOne (Nat.pow 10 25)),
      (Value.float (.finite false _ h)).reread ≠ .float (.finite false _ h) :=
    ⟨by decide +kernel, by decide +kernel⟩
  exact ⟨_, .intro false hexact, fun hback =>
    hmoved ((Value.reread_float_eq_self_iff (.intro false hexact)).mpr hback)⟩

end ReportFilters
