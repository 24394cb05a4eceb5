import ReportFilters.Catalog.CostQuery
import ReportFilters.Chain
import ReportFilters.Filter.Stored
import ReportFilters.Settings.Basic

/-! Reports: a catalog, settings and a chain, and the definitions in which reports are kept. -/

namespace ReportFilters

/-- The definition of a report, its filters from top to bottom. -/
structure ReportSpec where
  filters : List FilterSpec := []
deriving DecidableEq

namespace ReportSpec

def json (spec : ReportSpec) : Except Failure String := do
  pure (Json.writeTable [("filters", Json.writeList (← spec.filters.mapM FilterSpec.json))])

def filtersOfJson? : Json → Option (List FilterSpec)
  | .list items => items.mapM FilterSpec.ofJson?
  | _ => none

/-- A definition without filters may leave them out. -/
def ofJsonTree? : Json → Option ReportSpec
  | .table entries => do
    if entries.any fun entry => entry.1.isNone then none
    else
      let filters ← Json.entry? entries "filters"
      pure ⟨← (filters.map filtersOfJson?).getD (some [])⟩
  | .list items =>
    match items with
    | [] => some {}
    | [filters] => (filtersOfJson? filters).map ReportSpec.mk
    | _ => none
  | _ => none

def ofJson (text : String) : Except Error ReportSpec :=
  match (Json.parse? text).bind ofJsonTree? with
  | some spec => .ok spec
  | none => .error (Error.malformed "report definition")

def meansAll : List FilterSpec → List FilterSpec → Bool
  | [], [] => true
  | a :: as, b :: bs => a.means b && meansAll as bs
  | _, _ => false

def means (a b : ReportSpec) : Bool := meansAll a.filters b.filters

end ReportSpec

structure AvailableValue where
  label : String
  value : Value
deriving DecidableEq

abbrev ValueSource := FilterType → Except Error (List AvailableValue)

def CostQuery.Assignees.values (assignees : CostQuery.Assignees) : ValueSource := fun type =>
  if type.name = CostQuery.assignedToId then
    .ok (assignees.map fun (label, id) => ⟨label, .int id⟩)
  else
    .error ((Error.unknownFilterType type.name).withHelp
      "Assignees only lists values for assigned_to_id")

structure Report where
  catalog : Catalog
  settings : Settings
  chain : Chain

namespace Report

def empty (catalog : Catalog) (settings : Settings) : Report := ⟨catalog, settings, Chain.empty⟩

def filter (report : Report) (id : NodeId) (name : String) (operator : Option String)
    (values : List Value) : Except Error Report := do
  let f ← report.catalog.buildFilter name report.settings.defaultToken operator values
  pure { report with chain := report.chain.prepend id f }

/-- Filters on top of each other, the first at the bottom, with ids that follow on one another. -/
def addAll (report : Report) (id : NodeId) : List FilterSpec → Except Error Report
  | [] => .ok report
  | spec :: above => do
    let report ← report.filter id spec.name spec.operator spec.values
    report.addAll id.next above

def ofSpec (catalog : Catalog) (settings : Settings) (first : NodeId) (spec : ReportSpec) :
    Except Error Report :=
  (empty catalog settings).addAll first spec.filters.reverse

def spec (report : Report) : ReportSpec := ⟨report.chain.filters.map Filter.spec⟩

def updateFilter (report : Report) (id : NodeId) (edit : Filter → Filter) : Option Report :=
  (report.chain.updateFilter id edit).map fun chain => { report with chain }

def isValid (report : Report) : Bool := report.chain.isValid

def errors (report : Report) : List String := report.chain.errors

def availableValues (report : Report) (name : String) (source : ValueSource) :
    Except Error (List AvailableValue) := do
  let type ← report.catalog.type name
  if type.isAbstract then .error (Error.abstractConstruction name) else source type

def compileAt (report : Report) (now : Instant) : Except Failure CompiledQuery := do
  let clock ← (report.settings.clockAt now).mapError .error
  report.chain.compile report.settings.baseTable report.settings.dialect clock

end Report
end ReportFilters
