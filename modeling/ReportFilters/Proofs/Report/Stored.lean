import ReportFilters.Proofs.Chain.Alignment
import ReportFilters.Proofs.Report.RoundTrip
import ReportFilters.Proofs.Value.Stored

/-! Reports that were stored as text. There is a text unless a value has no stored form, and it gives back a
report with the same filters on the same operators; their values are what the stored values are read as. -/

namespace ReportFilters

namespace FilterSpec

def reread (spec : FilterSpec) : FilterSpec :=
  { spec with values := spec.values.map Value.reread }

def IsStorable (spec : FilterSpec) : Prop := ∀ v ∈ spec.values, v.IsStorable

theorem restores_json {spec : FilterSpec} (h : spec.IsStorable) :
    Json.Restores spec.json ofJson? spec.reread := by
  obtain ⟨name, operator, values⟩ := spec
  obtain ⟨texts, js, htexts, hvalues, hread⟩ :=
    Json.exists_reads_writeList fun v hv => Value.restores_json (h v hv)
  have hlist : Value.listOfJson? (.list js) = some (values.map Value.reread) := hread
  have hjson : json ⟨name, operator, values⟩ = .ok (Json.writeTable ([("name", Json.writeText name)]
      ++ operator.toList.map (fun token => ("operator", Json.writeText token))
      ++ [("values", Json.writeList texts)])) := by
    rw [json, Value.listJson, htexts]
    rfl
  cases operator with
  | none =>
    refine ⟨_, .table [(some "name", .string (some name)), (some "values", .list js)], hjson,
      Json.reads_writeTable (.cons ⟨rfl, Json.reads_writeText name⟩ (.cons ⟨rfl, hvalues⟩ .nil)), ?_⟩
    simp [ofJson?, ofParts?, Json.entry?, Json.entriesNamed, Json.string?, Json.optionalString?, hlist, reread]
  | some token =>
    refine ⟨_, .table [(some "name", .string (some name)), (some "operator", .string (some token)),
      (some "values", .list js)], hjson, Json.reads_writeTable (.cons ⟨rfl, Json.reads_writeText name⟩
        (.cons ⟨rfl, Json.reads_writeText token⟩ (.cons ⟨rfl, hvalues⟩ .nil))), ?_⟩
    simp [ofJson?, ofParts?, Json.entry?, Json.entriesNamed, Json.string?, Json.optionalString?, hlist, reread]

theorem json_of_not_isStorable {spec : FilterSpec} (h : ¬spec.IsStorable) :
    spec.json = .error .offCalendar := by
  have hvalues : spec.values.mapM Value.json = .error .offCalendar :=
    mapM_eq_error_of_not_forall (fun v hv => (Value.restores_json hv).exists_eq_ok)
      (fun v => Value.json_of_not_isStorable) h
  rw [json, Value.listJson, hvalues]
  rfl

end FilterSpec

namespace ReportSpec

def reread (spec : ReportSpec) : ReportSpec := ⟨spec.filters.map FilterSpec.reread⟩

def IsStorable (spec : ReportSpec) : Prop := ∀ f ∈ spec.filters, f.IsStorable

theorem exists_ofJson_json {spec : ReportSpec} (h : spec.IsStorable) :
    ∃ text, spec.json = .ok text ∧ ofJson text = .ok spec.reread := by
  obtain ⟨texts, js, htexts, hfilters, hread⟩ :=
    Json.exists_reads_writeList fun f hf => FilterSpec.restores_json (h f hf)
  have htree : ofJsonTree? (.table [(some "filters", .list js)]) = some spec.reread := by
    simp [ofJsonTree?, Json.entry?, Json.entriesNamed, filtersOfJson?, hread, reread]
  have htable : Json.Reads (Json.writeTable [("filters", Json.writeList texts)])
      (.table [(some "filters", .list js)]) :=
    Json.reads_writeTable (.cons ⟨rfl, hfilters⟩ .nil)
  refine ⟨Json.writeTable [("filters", Json.writeList texts)], ?_, ?_⟩
  · rw [json, htexts]
    rfl
  · rw [ofJson, htable.parse?, Option.bind_some, htree]

theorem json_of_not_isStorable {spec : ReportSpec} (h : ¬spec.IsStorable) :
    spec.json = .error .offCalendar := by
  have hfilters : spec.filters.mapM FilterSpec.json = .error .offCalendar :=
    mapM_eq_error_of_not_forall (fun f hf => (FilterSpec.restores_json hf).exists_eq_ok)
      (fun f => FilterSpec.json_of_not_isStorable) h
  rw [json, hfilters]
  rfl

end ReportSpec

namespace Filter

def reread (f : Filter) : Filter := f.setValues (f.values.map Value.reread)

theorem Fits.reread {catalog : Catalog} {f : Filter} (h : f.Fits catalog) : f.reread.Fits catalog :=
  ⟨h.type, h.concrete, h.default, h.explicit⟩

theorem reread_eq_self {f : Filter} (h : ∀ v ∈ f.values, v.IsKept) : f.reread = f := by
  have hvalues : f.values.map Value.reread = f.values :=
    map_eq_self_iff.mpr fun v hv => v.reread_eq_self_iff.mpr (h v hv)
  rw [Filter.reread, hvalues]
  rfl

end Filter

namespace Report

/-- Writing a report stops if the local time of an instant among its values is beyond the calendar. Every
other report is restored from its text, with the same filters in the same order, each with its type, its
operators and its values as they are reread. If all its values are kept, which numbers of fifteen digits
are, the restored report has the same definition, validates alike and compiles alike. -/
theorem exists_restored {decls : List Declaration} {ops : List CustomOperator}
    {catalog : Catalog} {settings : Settings} {report : Report}
    (hcatalog : catalog.BuiltFrom decls ops) (h : Reached catalog settings report) (first : NodeId) :
    (∀ v : Value, (¬v.IsStorable → v.json = .error .offCalendar) ∧
      (v.IsStorable → ∃ text, v.json = .ok text ∧
        (Json.parse? text).bind Value.ofJson? = some v.reread) ∧
      (v.reread = v ↔ v.IsKept) ∧ (v.IsKept → v.IsStorable)) ∧
    (∀ x : Binary64, x.IsShort → (Value.float x).IsKept) ∧
    ((∃ f ∈ report.chain.filters, ∃ v ∈ f.values, ¬v.IsStorable) →
      report.spec.json = .error .offCalendar) ∧
    ((∀ f ∈ report.chain.filters, ∀ v ∈ f.values, v.IsStorable) →
      ∃ text spec restored, report.spec.json = .ok text ∧ ReportSpec.ofJson text = .ok spec ∧
        ofSpec catalog settings first spec = .ok restored ∧
        restored.settings = report.settings ∧
        restored.chain.filters = report.chain.filters.map Filter.reread ∧
        ((∀ f ∈ report.chain.filters, ∀ v ∈ f.values, v.IsKept) →
          spec = report.spec ∧ restored.isValid = report.isValid ∧ restored.errors = report.errors ∧
            ∀ now, restored.compileAt now = report.compileAt now)) := by
  refine ⟨fun v => ⟨Value.json_of_not_isStorable, fun hv => (Value.restores_json hv).bind_parse?,
    v.reread_eq_self_iff, Value.IsKept.isStorable⟩, fun _ => Value.isKept_of_isShort, ?_, ?_⟩
  · rintro ⟨f, hf, v, hv, hbeyond⟩
    refine ReportSpec.json_of_not_isStorable fun hall => hbeyond ?_
    exact hall f.spec (List.mem_map_of_mem hf) v hv
  intro hstorable
  have hfits := h.fits hcatalog.sound
  have hfilters : ∀ f ∈ (report.chain.filters.map Filter.reread).reverse,
      f.Fits catalog ∧ f.type.effectiveDefault settings.defaultToken = some f.default := by
    intro f hf
    obtain ⟨g, hg, rfl⟩ := List.mem_map.mp (List.mem_reverse.mp hf)
    obtain ⟨hfits, hdefault⟩ := hfits.filters g hg
    exact ⟨hfits.reread, hdefault⟩
  obtain ⟨restored, hrestored, hsettings, hsame⟩ :=
    addAll_specs hcatalog.sound fits_empty.sameCatalog fits_empty.sameSettings first hfilters
  rw [List.reverse_reverse] at hsame
  replace hsame : restored.chain.filters = report.chain.filters.map Filter.reread :=
    hsame.trans (List.append_nil _)
  have hspecStorable : report.spec.IsStorable := List.forall_mem_map.mpr hstorable
  obtain ⟨text, htext, hread⟩ := ReportSpec.exists_ofJson_json hspecStorable
  -- only values are reread, so what is read is the definition of the reread filters
  have hspec : report.spec.filters.map FilterSpec.reread
      = (report.chain.filters.map Filter.reread).map Filter.spec := by
    rw [spec, List.map_map, List.map_map]
    rfl
  refine ⟨text, _, restored, htext, hread, ?_, hsettings.trans hfits.sameSettings.symm, hsame, ?_⟩
  · rw [ofSpec, ReportSpec.reread, hspec, ← List.map_reverse]
    exact hrestored
  · intro hkept
    have hid : report.chain.filters.map Filter.reread = report.chain.filters :=
      (List.map_congr_left fun f hf => Filter.reread_eq_self (hkept f hf)).trans (List.map_id _)
    rw [hid] at hspec hsame
    refine ⟨congrArg ReportSpec.mk hspec, ?_, ?_, ?_⟩
    · rw [isValid, isValid, Chain.isValid, Chain.isValid, hsame]
    · rw [errors, errors, Chain.errors, Chain.errors, Chain.bottomUp, Chain.bottomUp, hsame]
    · exact compileAt_congr (hsettings.trans hfits.sameSettings.symm) hsame

def notes : List Declaration :=
  [{ name := "note", column := "entries.note", uses := [.group .string, .token "="] }]

def noteReport? (token : String) (values : List Value) (catalog : Catalog) : Option Report :=
  ((Report.empty catalog {}).filter .first "note" (some token) values).toOption

theorem reached_of_noteReport? {catalog : Catalog} {token : String} {values : List Value} {report : Report}
    (h : noteReport? token values catalog = some report) : Reached catalog {} report :=
  Reached.empty.filter (eq_ok_of_toOption_eq_some h)

def parametersAt? (now : Instant) (report : Report) : Option (List Value) :=
  (report.compileAt now).toOption.map CompiledQuery.params

theorem compileAt_restored_ne : ∃ catalog report text spec restored,
    Catalog.BuiltFrom notes [] catalog ∧ Reached catalog {} report ∧
    report.spec.json = .ok text ∧ ReportSpec.ofJson text = .ok spec ∧
    ofSpec catalog {} .first spec = .ok restored ∧
    report.parametersAt? Chain.noon.now = some [.text "%2024-05-01T00:00:00Z%"] ∧
    restored.parametersAt? Chain.noon.now = some [.text "%2024-05-01T00:00:00+00:00%"] ∧
    restored.compileAt Chain.noon.now ≠ report.compileAt Chain.noon.now := by
  have hrun : ((Catalog.ofDeclarations? notes []).bind fun catalog =>
      (noteReport? "~" [.text "2024-05-01T00:00:00Z"] catalog).bind fun report =>
        report.spec.json.toOption.bind fun text =>
          (ReportSpec.ofJson text).toOption.bind fun spec =>
            (ofSpec catalog {} .first spec).toOption.map fun restored =>
              (report.parametersAt? Chain.noon.now, restored.parametersAt? Chain.noon.now))
      = some (some [.text "%2024-05-01T00:00:00Z%"], some [.text "%2024-05-01T00:00:00+00:00%"]) := by
    decide +kernel
  obtain ⟨catalog, hcatalog, hrun⟩ := Option.bind_eq_some_iff.mp hrun
  obtain ⟨report, hreport, hrun⟩ := Option.bind_eq_some_iff.mp hrun
  obtain ⟨text, htext, hrun⟩ := Option.bind_eq_some_iff.mp hrun
  obtain ⟨spec, hspec, hrun⟩ := Option.bind_eq_some_iff.mp hrun
  obtain ⟨restored, hrestored, hrun⟩ := Option.map_eq_some_iff.mp hrun
  obtain ⟨hbefore, hafter⟩ := Prod.mk.inj hrun
  refine ⟨catalog, report, text, spec, restored, Catalog.builtFrom_of_ofDeclarations? hcatalog,
    reached_of_noteReport? hreport, eq_ok_of_toOption_eq_some htext, eq_ok_of_toOption_eq_some hspec,
    eq_ok_of_toOption_eq_some hrestored, hbefore, hafter, fun hsame => ?_⟩
  rw [parametersAt?, hsame, ← parametersAt?, hbefore] at hafter
  exact absurd hafter (by decide)

def keptValues : List Value := [.text "May", .float (Binary64.ofDecimal true 1 (-1)), .null, .int 7]

theorem isKept_keptValues : ∀ v ∈ keptValues, v.IsKept := by decide +kernel

theorem exists_restored_keptValues : ∃ catalog report text spec restored,
    Catalog.BuiltFrom notes [] catalog ∧ Reached catalog {} report ∧
    report.spec = ⟨[{ name := "note", operator := some "=", values := keptValues }]⟩ ∧
    report.spec.json = .ok text ∧ ReportSpec.ofJson text = .ok spec ∧
    ofSpec catalog {} .first spec = .ok restored ∧
    ∀ now, restored.compileAt now = report.compileAt now := by
  have hrun : ((Catalog.ofDeclarations? notes []).bind (noteReport? "=" keptValues)).map spec
      = some ⟨[{ name := "note", operator := some "=", values := keptValues }]⟩ := by
    decide +kernel
  obtain ⟨report, hrun, hspec⟩ := Option.map_eq_some_iff.mp hrun
  obtain ⟨catalog, hcatalog, hreport⟩ := Option.bind_eq_some_iff.mp hrun
  have hbuilt := Catalog.builtFrom_of_ofDeclarations? hcatalog
  have hreached := reached_of_noteReport? hreport
  have hkept : ∀ f ∈ report.chain.filters, ∀ v ∈ f.values, v.IsKept := by
    intro f hf
    have hmem : f.spec ∈ report.spec.filters := List.mem_map_of_mem hf
    rw [hspec, List.mem_singleton] at hmem
    have hvalues : f.values = keptValues := congrArg FilterSpec.values hmem
    rw [hvalues]
    exact isKept_keptValues
  obtain ⟨-, -, -, hrestored⟩ := exists_restored hbuilt hreached .first
  obtain ⟨text, spec, restored, htext, hread, hrestored, -, -, halike⟩ :=
    hrestored fun f hf v hv => (hkept f hf v hv).isStorable
  obtain ⟨-, -, -, hcompile⟩ := halike hkept
  exact ⟨catalog, report, text, spec, restored, hbuilt, hreached, hspec, htext, hread, hrestored, hcompile⟩

end Report
end ReportFilters
