import ReportFilters.Catalog.Basic

/-! The filter types of cost reports, which select from a table that holds time and cost entries
side by side. -/

namespace ReportFilters.CostQuery

def entriesTable : String := "entries"

def costFilter : String := "cost_filter"

def assignedToId : String := "assigned_to_id"

def issueJoin : Join := Join.belongsTo "issues" entriesTable "issue_id"

def declarations : List Declaration := [
  { name := costFilter, isAbstract := true },
  { name := assignedToId
    parent := costFilter
    column := "issues.assigned_to_id"
    joins := [issueJoin]
    uses := [.group .null] }]

def catalog : Except Error Catalog := do
  (← CatalogBuilder.empty.registerAll declarations).build Registry.empty

/-- Users by name, each with the number that filters compare with. -/
abbrev Assignees := List (String × Int64)

end ReportFilters.CostQuery
