import DomQuery.Document

set_option autoImplicit false

namespace DomQuery

namespace Document

def ending (d : Document) (extent : Extent) : Lookup (NodeId → Bool) :=
  match extent with
  | .unbounded => .ok fun _ => false
  | .selector text => do
      let list ← Lookup.selector text
      return list.holds d.tree
  | .node n => do
      let ns ← d.known [n]
      return ns.contains
  | .selection s => do
      let ns ← d.own s
      return ns.contains

def gather (d : Document) (inputs : List NodeId) (filter : Option String)
    (walk : NodeId → List NodeId) : Lookup (List NodeId) := do
  let list? ← filter.mapM Lookup.selector
  let found := (inputs.flatMap walk).eraseDups
  return match list? with
    | some list => found.filter (list.holds d.tree)
    | none => found

end Document

namespace Selection

-- A selector is matched below each node; other nodes count if some node of `s` contains them.
def findNodes (s : Selection) (operand : Operand) (d : Document) : Lookup (List NodeId) :=
  match operand with
  | .selector text => do
      let list ← Lookup.relativeSelector text
      return (s.nodes.flatMap (list.queryAll d.tree)).eraseDups
  | operand => do
      let candidates ← d.nodesOf "find" operand
      return (candidates.filter fun n => s.nodes.any (d.tree.contains · n)).eraseDups

def find (s : Selection) (operand : Operand) : DocumentM Selection := do
  s.chain (← DocumentM.look (s.findNodes operand))

def descendants (s : Selection) : DocumentM Selection := do
  let t := (← get).tree
  s.chain ((s.nodes.flatMap t.descendants).filter t.isElement).eraseDups

def contents (s : Selection) : DocumentM Selection := do
  s.chain (s.nodes.flatMap (← get).tree.children)

def walk (s : Selection) (inputs : List NodeId) (filter : Option String)
    (step : Tree → NodeId → List NodeId) : DocumentM Selection := do
  s.chain (← DocumentM.look fun d => d.gather inputs filter (step d.tree))

def walkUntil (s : Selection) (inputs : List NodeId) (extent : Extent) (filter : Option String)
    (step : Tree → NodeId → List NodeId) : DocumentM Selection := do
  s.chain (← DocumentM.look fun d => do
    let ends ← d.ending extent
    d.gather inputs filter fun n =>
      ((step d.tree n).takeWhile (!ends ·)).filter d.tree.isElement)

def children (s : Selection) (filter : Option String) : DocumentM Selection :=
  s.walk s.nodes filter Tree.elementChildren

def next (s : Selection) (filter : Option String) : DocumentM Selection :=
  s.walk s.nodes filter fun t n => ((t.followingSiblings n).find? t.isElement).toList

def prev (s : Selection) (filter : Option String) : DocumentM Selection :=
  s.walk s.nodes filter fun t n => ((t.precedingSiblings n).find? t.isElement).toList

def nextAll (s : Selection) (filter : Option String) : DocumentM Selection :=
  s.walk s.nodes filter fun t n => (t.followingSiblings n).filter t.isElement

def prevAll (s : Selection) (filter : Option String) : DocumentM Selection :=
  s.walk s.nodes filter fun t n => (t.precedingSiblings n).filter t.isElement

def nextUntil (s : Selection) (extent : Extent) (filter : Option String) : DocumentM Selection :=
  s.walkUntil s.nodes extent filter Tree.followingSiblings

def prevUntil (s : Selection) (extent : Extent) (filter : Option String) : DocumentM Selection :=
  s.walkUntil s.nodes extent filter Tree.precedingSiblings

def siblings (s : Selection) (filter : Option String) : DocumentM Selection :=
  s.walk s.nodes filter fun t n =>
    match t.parent n with
    | some parent => (t.elementChildren parent).filter (· ≠ n)
    | none => []

def parent (s : Selection) (filter : Option String) : DocumentM Selection :=
  s.walk s.nodes filter fun t n => ((t.parent n).filter t.isElement).toList

-- Ancestors of the last node first, and for each node the nearest first.
def parents (s : Selection) (filter : Option String) : DocumentM Selection :=
  s.walk s.nodes.reverse filter fun t n => (t.ancestors n).filter t.isElement

def parentsUntil (s : Selection) (extent : Extent) (filter : Option String) :
    DocumentM Selection :=
  s.walkUntil s.nodes.reverse extent filter Tree.ancestors

def closest (s : Selection) (selector : Option String) : DocumentM Selection :=
  match selector with
  | none => s.chain []
  | some text => do
      let list ← DocumentM.look fun _ => Lookup.selector text
      s.walk s.nodes none fun t n => ((n :: t.ancestors n).find? (list.holds t)).toList

end Selection

end DomQuery
