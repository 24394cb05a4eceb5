import ReportFilters.Dictionary
import ReportFilters.Error
import ReportFilters.Hierarchy.Attribute

/-! Types that inherit attributes from one parent each. A type is added after its parent, and types
are kept newest first, so the parent of a type is found among the types behind it and the walk to
the root follows the list. -/

namespace ReportFilters

structure TypeNode where
  name : String
  parent : Option String := none
  rules : Dictionary AttributeRule := []
  values : Dictionary (List AttributeValue) := []
  stops : List String := []

structure Hierarchy where
  newestFirst : List TypeNode

namespace Hierarchy

def empty : Hierarchy := ⟨[]⟩

/-- A single type without parent. A value goes through the rule declared for its attribute. -/
def ofRoot (name : String) (rules : List (String × AttributeRule))
    (values : List (String × List AttributeValue)) : Hierarchy :=
  let rules : Dictionary AttributeRule :=
    rules.foldl (fun d (attr, rule) => Dictionary.put d attr rule) []
  let stored (attr : String) (list : List AttributeValue) :=
    match rules.get? attr with
    | some rule => rule.mapped list
    | none => list
  let values : Dictionary (List AttributeValue) :=
    values.foldl (fun d (attr, list) => Dictionary.put d attr (stored attr list)) []
  ⟨[{ name, rules, values }]⟩

def node? (h : Hierarchy) (name : String) : Option TypeNode :=
  h.newestFirst.find? fun node => node.name = name

def contains (h : Hierarchy) (name : String) : Bool := (h.node? name).isSome

def parent? (h : Hierarchy) (name : String) : Option String := (h.node? name).bind (·.parent)

def names (h : Hierarchy) : List String := (h.newestFirst.map TypeNode.name).reverse

def lineageIn : List TypeNode → String → List TypeNode
  | [], _ => []
  | node :: older, name =>
    if node.name = name then
      node :: (match node.parent with
        | none => []
        | some parent => lineageIn older parent)
    else lineageIn older name

def lineage (h : Hierarchy) (name : String) : List TypeNode := lineageIn h.newestFirst name

def addType (h : Hierarchy) (name : String) (parent : Option String) : Except Error Hierarchy :=
  if h.contains name then .error (Error.duplicateFilterType name)
  else
    match parent with
    | none => .ok ⟨{ name } :: h.newestFirst⟩
    | some p =>
      if h.contains p then .ok ⟨{ name, parent } :: h.newestFirst⟩
      else .error (Error.unknownParentType name p)

def updateNode (h : Hierarchy) (name : String) (f : TypeNode → TypeNode) :
    Except Error Hierarchy :=
  if h.contains name then
    .ok ⟨h.newestFirst.map fun node => if node.name = name then f node else node⟩
  else .error (Error.unknownFilterType name)

def declare (h : Hierarchy) (name attr : String) (rule : AttributeRule) : Except Error Hierarchy :=
  h.updateNode name fun node => { node with rules := node.rules.put attr rule }

def stop (h : Hierarchy) (name attr : String) : Except Error Hierarchy :=
  h.updateNode name fun node => { node with stops := node.stops ++ [attr] }

def rule (h : Hierarchy) (name attr : String) : Except Error AttributeRule :=
  if h.contains name then
    match (h.lineage name).findSome? fun node => node.rules.get? attr with
    | some rule => .ok rule
    | none => .error (Error.unknownAttribute name attr)
  else .error (Error.unknownFilterType name)

/-- Values are appended to a list; a scalar takes exactly one and forgets the one before. -/
def set (h : Hierarchy) (name attr : String) (values : List AttributeValue) :
    Except Error Hierarchy := do
  let rule ← h.rule name attr
  let mapped := rule.mapped values
  if !rule.isList && mapped.length ≠ 1 then
    .error (Error.configuration ("scalar attribute `" ++ attr ++ "` on `" ++ name
      ++ "` takes one value, got " ++ toString mapped.length))
  else
    h.updateNode name fun node =>
      let held := (node.values.get? attr).getD []
      { node with values := node.values.put attr (if rule.isList then held ++ mapped else mapped) }

def untilStop (attr : String) : List TypeNode → List TypeNode
  | [] => []
  | node :: rest => if node.stops.contains attr then [node] else node :: untilStop attr rest

def held (attr : String) (node : TypeNode) : List AttributeValue :=
  (node.values.get? attr).getD []

def get (h : Hierarchy) (name attr : String) : Except Error Resolved := do
  let rule ← h.rule name attr
  let reach := untilStop attr (h.lineage name)
  if rule.isList then pure (rule.finish (.list (reach.reverse.flatMap (held attr))))
  else pure (rule.finish (.scalar (reach.findSome? fun node => (held attr node).head?)))

end Hierarchy
end ReportFilters
