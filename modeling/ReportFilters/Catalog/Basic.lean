import ReportFilters.Filter.Basic

/-! The catalog of filter types, and the making of filters from it. -/

namespace ReportFilters

structure Catalog where
  /-- In the order of declaration, the base type first. -/
  types : List FilterType
  hierarchy : FrozenHierarchy
  fallback : Operator
  knownTokens : List String

namespace CatalogBuilder

def resolveType (registry : Registry) (frozen : FrozenHierarchy)
    (entry : String × Declaration) : Except Error FilterType :=
  match frozen.get? entry.1 with
  | some type => FilterType.resolve registry entry.2 type
  | none => .error (Error.unknownFilterType entry.1)

def build (builder : CatalogBuilder) (registry : Registry) : Except Error Catalog := do
  let hierarchy := builder.hierarchy.freeze
  let fallback ← registry.lookup builder.defaultOperator
  let types ← builder.declarations.mapM (resolveType registry hierarchy)
  pure { types, hierarchy, fallback, knownTokens := registry.tokens }

end CatalogBuilder

namespace Catalog

def type? (catalog : Catalog) (name : String) : Option FilterType :=
  catalog.types.find? fun type => type.name = name

def type (catalog : Catalog) (name : String) : Except Error FilterType :=
  match catalog.type? name with
  | some type => .ok type
  | none => .error (Error.unknownFilterType name)

def contains (catalog : Catalog) (name : String) : Bool := (catalog.type? name).isSome

def displayed (catalog : Catalog) : List FilterType :=
  catalog.types.filter fun type => type.display && !type.isAbstract

def isA (catalog : Catalog) (name ancestor : String) : Bool := catalog.hierarchy.isA name ancestor

def knowsOperator (catalog : Catalog) (token : String) : Bool := catalog.knownTokens.contains token

def newFilterDefaulting (catalog : Catalog) (name fallback : String) : Except Error Filter := do
  let type ← catalog.type name
  if type.isAbstract then .error (Error.abstractConstruction name)
  else
    match type.effectiveDefault fallback with
    | some default => .ok { type, default }
    | none => .error (Error.operatorNotSupported name fallback)

def newFilter (catalog : Catalog) (name : String) : Except Error Filter :=
  catalog.newFilterDefaulting name catalog.fallback.token

def assignOperator (catalog : Catalog) (f : Filter) (name token : String) : Except Error Filter :=
  if catalog.knowsOperator token then f.setOperator token
  else .error ((Error.unknownOperator token).withFilter name)

def buildFilter (catalog : Catalog) (name fallback : String) (operator : Option String)
    (values : List Value) : Except Error Filter := do
  let f ← catalog.newFilterDefaulting name fallback
  let f ← match operator with
    | some token => catalog.assignOperator f name token
    | none => pure f
  pure (f.setValues values)

def newFilterWith (catalog : Catalog) (name : String) (operator : Option String)
    (values : List Value) : Except Error Filter :=
  catalog.buildFilter name catalog.fallback.token operator values

end Catalog
end ReportFilters
