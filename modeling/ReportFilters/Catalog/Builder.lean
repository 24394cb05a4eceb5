import ReportFilters.Catalog.Declaration
import ReportFilters.Hierarchy.Frozen
import ReportFilters.Text.Blank

/-! Collecting declarations. What a type declares becomes attributes in a hierarchy below the base
type, and inheritance is the hierarchy's. -/

namespace ReportFilters

namespace Attribute

def column : String := "column"
def availableOperators : String := "available_operators"
def defaultOperator : String := "default_operator"
def tableJoins : String := "table_joins"
def heavy : String := "heavy"
def display : String := "display"

def trimToken : AttributeValue → AttributeValue
  | .text token => .text (Text.trim token)
  | value => value

def rules : List (String × AttributeRule) := [
  (column, {}),
  (availableOperators, { isList := true, isUnique := true, map := some trimToken }),
  (defaultOperator, { map := some trimToken }),
  (tableJoins, { isList := true, isUnique := true }),
  (heavy, { default := some (.bool false) }),
  (display, { default := some (.bool true) })]

end Attribute

structure CatalogBuilder where
  hierarchy : Hierarchy
  declarations : Dictionary Declaration
  defaultOperator : String

namespace CatalogBuilder

def baseDeclaration : Declaration :=
  { name := baseFilter, isAbstract := true, uses := [.group .default] }

def empty : CatalogBuilder where
  hierarchy := Hierarchy.ofRoot baseFilter Attribute.rules
    [(Attribute.availableOperators, OperatorGroup.default.tokens.map .text),
      (Attribute.display, [.bool false])]
  declarations := [(baseFilter, baseDeclaration)]
  defaultOperator := Builtin.equal.token

def withDefaultOperator (builder : CatalogBuilder) (token : String) : CatalogBuilder :=
  { builder with defaultOperator := token }

def setUnless (skip : Bool) (name attr : String) (values : List AttributeValue) (h : Hierarchy) :
    Except Error Hierarchy :=
  if skip then .ok h else h.set name attr values

def stopOperators (decl : Declaration) (h : Hierarchy) : Except Error Hierarchy :=
  (decl.uses.filter OperatorUse.replacesInherited).foldlM
    (fun h _ => h.stop decl.name Attribute.availableOperators) h

/-- The type is offered for selection when it is concrete. It has to say so where its parent says
otherwise. -/
def displayValue (builder : CatalogBuilder) (decl : Declaration) : Option Bool :=
  if decl.isAbstract then some false
  else if ((builder.declarations.get? decl.parent).map Declaration.isAbstract).getD false then
    some true
  else none

def register (builder : CatalogBuilder) (decl : Declaration) : Except Error CatalogBuilder := do
  let name := decl.name
  let tokens := decl.uses.flatMap OperatorUse.tokens
  let shown := builder.displayValue decl
  let h ← builder.hierarchy.addType name (some decl.parent)
  let h ← stopOperators decl h
  let h ← setUnless decl.column.isEmpty name Attribute.column [.text decl.column] h
  let h ← setUnless tokens.isEmpty name Attribute.availableOperators (tokens.map .text) h
  let h ← setUnless decl.defaultOperator.isNone name Attribute.defaultOperator
    (decl.defaultOperator.toList.map .text) h
  let h ← setUnless decl.joins.isEmpty name Attribute.tableJoins (decl.joins.map .join) h
  let h ← setUnless decl.isHeavy.isNone name Attribute.heavy (decl.isHeavy.toList.map .bool) h
  let h ← setUnless shown.isNone name Attribute.display (shown.toList.map .bool) h
  pure { builder with hierarchy := h, declarations := builder.declarations.put name decl }

def registerAll (builder : CatalogBuilder) (decls : List Declaration) :
    Except Error CatalogBuilder :=
  decls.foldlM register builder

end CatalogBuilder
end ReportFilters
