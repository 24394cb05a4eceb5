import ReportFilters.Hierarchy.Basic

/-! A hierarchy with every attribute of every type worked out once, from the oldest type to the
newest, each from what its parent was found to have. -/

namespace ReportFilters

/-- Attributes of a type before duplicates are dropped and defaults filled in. -/
structure SettledType where
  node : TypeNode
  rules : Dictionary AttributeRule
  raw : Dictionary Resolved

structure FrozenType where
  name : String
  parent : Option String
  attributes : Dictionary Resolved
deriving DecidableEq

structure FrozenHierarchy where
  newestFirst : List FrozenType
deriving DecidableEq

namespace SettledType

/-- What the type has of an attribute, given what its parent has. A parent's list does not become
a scalar of the type, nor the other way round. -/
def settle (node : TypeNode) (parent : Option SettledType) (attr : String)
    (rule : AttributeRule) : Resolved :=
  let inherited :=
    if node.stops.contains attr then none else parent.bind fun p => p.raw.get? attr
  let own := Hierarchy.held attr node
  if rule.isList then
    match inherited with
    | some (.list values) => .list (values ++ own)
    | _ => .list own
  else
    match own.head?, inherited with
    | some value, _ => .scalar (some value)
    | none, some (.scalar value) => .scalar value
    | none, _ => .scalar none

def ofNode (node : TypeNode) (parent : Option SettledType) : SettledType :=
  let visible := (parent.map SettledType.rules).getD []
  let rules := node.rules.foldl (fun d (attr, rule) => Dictionary.put d attr rule) visible
  { node, rules, raw := rules.map fun (attr, rule) => (attr, settle node parent attr rule) }

def finish (settled : SettledType) : FrozenType where
  name := settled.node.name
  parent := settled.node.parent
  attributes := settled.rules.filterMap fun (attr, rule) =>
    (settled.raw.get? attr).map fun value => (attr, rule.finish value)

end SettledType

namespace FrozenType

def get? (type : FrozenType) (attr : String) : Option Resolved := type.attributes.get? attr

def list (type : FrozenType) (attr : String) : List AttributeValue :=
  match type.get? attr with
  | some (.list values) => values
  | _ => []

def scalar (type : FrozenType) (attr : String) : Option AttributeValue :=
  match type.get? attr with
  | some (.scalar value) => value
  | _ => none

def flag (type : FrozenType) (attr : String) : Bool :=
  ((type.scalar attr).bind AttributeValue.bool?).getD false

end FrozenType

namespace Hierarchy

def settleAll : List TypeNode → List SettledType
  | [] => []
  | node :: older =>
    let settled := settleAll older
    let parent := node.parent.bind fun name => settled.find? fun s => s.node.name = name
    .ofNode node parent :: settled

def freeze (h : Hierarchy) : FrozenHierarchy := ⟨(settleAll h.newestFirst).map SettledType.finish⟩

end Hierarchy

namespace FrozenHierarchy

def get? (h : FrozenHierarchy) (name : String) : Option FrozenType :=
  h.newestFirst.find? fun type => type.name = name

def types (h : FrozenHierarchy) : List FrozenType := h.newestFirst.reverse

/-- The name and those of the ancestors; an unknown name stands for itself. -/
def ancestryIn : List FrozenType → String → List String
  | [], name => [name]
  | type :: older, name =>
    if type.name = name then
      name :: (match type.parent with
        | none => []
        | some parent => ancestryIn older parent)
    else ancestryIn older name

def isA (h : FrozenHierarchy) (name ancestor : String) : Bool :=
  (ancestryIn h.newestFirst name).contains ancestor

end FrozenHierarchy
end ReportFilters
