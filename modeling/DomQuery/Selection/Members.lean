import DomQuery.Document

set_option autoImplicit false

namespace DomQuery.Selection

def tests (s : Selection) (operation : String) (criterion : Criterion) (d : Document) :
    Lookup (List Bool) :=
  match criterion with
  | .predicate holds => .ok (s.nodes.zipIdx.map fun (n, index) => holds index n)
  | .operand (.selector text) => do
      let list ← Lookup.selector text
      return s.nodes.map (list.holds d.tree)
  | .operand operand => do
      let wanted ← d.nodesOf operation operand
      return s.nodes.map wanted.contains

def keep (s : Selection) (answers : List Bool) (wanted : Bool) : List NodeId :=
  ((s.nodes.zip answers).filter (·.2 == wanted)).map (·.1)

def filter (s : Selection) (criterion : Criterion) : DocumentM Selection := do
  s.chain (s.keep (← DocumentM.look (s.tests "filter" criterion)) true)

def not (s : Selection) (criterion : Criterion) : DocumentM Selection := do
  s.chain (s.keep (← DocumentM.look (s.tests "not" criterion)) false)

def is (s : Selection) (criterion : Criterion) : DocumentM Bool := do
  return (← DocumentM.look (s.tests "is" criterion)).any id

def hasNodes (s : Selection) (operand : Operand) (d : Document) : Lookup (List NodeId) :=
  match operand with
  | .selector text => do
      let list ← Lookup.relativeSelector text
      return s.nodes.filter fun n => (d.tree.descendants n).any (list.holdsIn d.tree n)
  | operand => do
      let inner ← d.nodesOf "has" operand
      return s.nodes.filter fun n => inner.any (d.tree.contains n)

def has (s : Selection) (operand : Operand) : DocumentM Selection := do
  s.chain (← DocumentM.look (s.hasNodes operand))

def atIndex (s : Selection) (index : Int) : DocumentM Selection := s.chain (s.get? index).toList

def first (s : Selection) : DocumentM Selection := s.atIndex 0

def last (s : Selection) : DocumentM Selection := s.atIndex (-1)

def slice (s : Selection) (first : Int) (last : Option Int) : DocumentM Selection :=
  s.chain (s.range first last)

def index (s : Selection) : DocumentM (Option Nat) := do
  return (s.get? 0).bind (← get).tree.elementIndex?

-- With a selector, the place of the first node among all matches in the document; with nodes, the
-- place of the first of them in this selection.
def indexOfNodes (s : Selection) (operand : Operand) (d : Document) : Lookup (Option Nat) :=
  match operand with
  | .selector text => do
      let matched ← d.selectNodes text
      return (s.get? 0).bind matched.idxOf?
  | operand => do
      let wanted ← d.nodesOf "index_of" operand
      return wanted.head?.bind s.nodes.idxOf?

def indexOf (s : Selection) (operand : Operand) : DocumentM (Option Nat) :=
  DocumentM.look (s.indexOfNodes operand)

def attr? (s : Selection) (name : String) : DocumentM (Option String) := do
  let t := (← get).tree
  return (s.get? 0).bind (t.attr? · name)

def text (s : Selection) : DocumentM String := do
  return String.join (s.nodes.map (← get).tree.textContent)

def joinNodes (s : Selection) (extra : List NodeId) (t : Tree) : List NodeId :=
  t.sortDocumentOrder (s.nodes ++ extra).eraseDups

def join (s : Selection) (extra : List NodeId) : DocumentM Selection := do
  s.chain (s.joinNodes extra (← get).tree)

def add (s : Selection) (operand : Operand) : DocumentM Selection := do
  s.join (← DocumentM.resolve "add" operand)

def addIn (s : Selection) (text : String) (operand : Operand) : DocumentM Selection := do
  s.join (← Document.selectInNodes text operand)

def addBack (s : Selection) (filter : Option String) : DocumentM Selection := do
  let previous ← s.previous
  match filter with
  | some text => s.join (← previous.filter (.ofText text)).nodes
  | none => s.join previous.nodes

end DomQuery.Selection
