import ReportFilters.Filter.Basic

/-! Chains of filters. A chain grows at its top and never changes: adding or editing a filter gives
a new chain, and what two chains have in common they have with the same node ids. At the bottom of
every chain, the empty one too, is the sentinel, a node without a filter. -/

namespace ReportFilters

/-- Identity of a node. Ids are handed out in increasing order, from one. -/
structure NodeId where
  index : Nat
deriving DecidableEq

namespace NodeId

def sentinel : NodeId := ⟨0⟩

def first : NodeId := ⟨1⟩

def next (id : NodeId) : NodeId := ⟨id.index + 1⟩

end NodeId

structure Node where
  id : NodeId
  filter : Filter

structure Chain where
  /-- The nodes above the sentinel. -/
  topFirst : List Node

namespace Chain

def empty : Chain := ⟨[]⟩

def prepend (chain : Chain) (id : NodeId) (filter : Filter) : Chain :=
  ⟨⟨id, filter⟩ :: chain.topFirst⟩

def length (chain : Chain) : Nat := chain.topFirst.length

def isEmpty (chain : Chain) : Bool := chain.topFirst.isEmpty

/-- From the sentinel up. -/
def nodeIds (chain : Chain) : List NodeId :=
  .sentinel :: (chain.topFirst.map Node.id).reverse

def top (chain : Chain) : NodeId := (chain.topFirst.head?.map Node.id).getD .sentinel

def bottom (_ : Chain) : NodeId := .sentinel

def responsible (chain : Chain) : NodeId := chain.top

def isTop (chain : Chain) (id : NodeId) : Bool := chain.top = id

/-- Height above the sentinel. -/
def position? (chain : Chain) (id : NodeId) : Option Nat :=
  let ids := chain.topFirst.map Node.id ++ [NodeId.sentinel]
  (ids.findIdx? (· = id)).map fun fromTop => chain.length - fromTop

def filter? (chain : Chain) (id : NodeId) : Option Filter :=
  (chain.topFirst.find? fun node => node.id = id).map Node.filter

def updateIn (id : NodeId) (edit : Filter → Filter) : List Node → Option (List Node)
  | [] => none
  | node :: below =>
    if node.id = id then some ({ node with filter := edit node.filter } :: below)
    else (updateIn id edit below).map (node :: ·)

def updateFilter (chain : Chain) (id : NodeId) (edit : Filter → Filter) : Option Chain :=
  (updateIn id edit chain.topFirst).map Chain.mk

def filters (chain : Chain) : List Filter := chain.topFirst.map Node.filter

def bottomUp (chain : Chain) : List Filter := chain.filters.reverse

def isValid (chain : Chain) : Bool := chain.filters.all Filter.isValid

def errors (chain : Chain) : List String :=
  chain.bottomUp.flatMap fun f => f.errors.map fun message => f.name ++ ": " ++ message

def assemble (chain : Chain) (table : String) (dialect : Dialect) (clock : Clock) :
    Except Failure Statement :=
  match chain.bottomUp.find? fun f => !f.isValid with
  | some f => .error (.error (Error.invalidFilterState f.name f.errors))
  | none =>
    match (chain.bottomUp.forM fun f => f.contribute clock).run (Statement.empty table dialect) with
    | .ok _ s => .ok s
    | .error failure _ => .error failure

def compile (chain : Chain) (table : String) (dialect : Dialect) (clock : Clock) :
    Except Failure CompiledQuery :=
  (chain.assemble table dialect clock).map Statement.compiled

def shown (chain : Chain) : String :=
  Text.bracketed (chain.filters.map Filter.shown ++ ["<no filter>"])

end Chain
end ReportFilters
