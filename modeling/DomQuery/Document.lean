import DomQuery.Markup.Source
import DomQuery.Selection.Basic
import DomQuery.Selector.Semantics
import DomQuery.Selector.Parse

set_option autoImplicit false

namespace DomQuery

open Selector (SelectorList)

inductive LookupError where
  | selector (e : Selector.Error)
  | markupNotAccepted (operation : String)
  | foreignNode (n : NodeId)
  | foreignSelection
deriving DecidableEq

def LookupError.message : LookupError → String
  | selector e => e.message
  | markupNotAccepted operation => "Invalid argument: " ++ operation ++ " does not accept a markup"
  | foreignNode n => "Invalid argument: node " ++ n.display ++ " does not belong to this document"
  | foreignSelection => "Invalid argument: selection belongs to another document"

-- Fragments are read as the document was. So many selections have been `issued`.
structure Document where
  id : Nat
  tree : Tree
  reader : Markup.Reader
  config : Markup.Config := {}
  issued : Nat := 0

abbrev Lookup := Except LookupError

namespace Lookup

def selector (text : String) : Lookup SelectorList :=
  (SelectorList.parse text).mapError .selector

def relativeSelector (text : String) : Lookup SelectorList :=
  (SelectorList.parseRelative text).mapError .selector

end Lookup

namespace Document

def load (id : Nat) (r : Markup.Reader) (cfg : Markup.Config) (markup : String) : Document :=
  { id, tree := r.parseDocument cfg markup, reader := r, config := cfg }

def ofTree (id : Nat) (r : Markup.Reader) (t : Tree) : Document := { id, tree := t, reader := r }

def isSame (d other : Document) : Bool := d.id = other.id

def known (d : Document) (ns : List NodeId) : Lookup (List NodeId) :=
  match ns.find? (!d.tree.has ·) with
  | some n => .error (.foreignNode n)
  | none => .ok ns

def own (d : Document) (s : Selection) : Lookup (List NodeId) :=
  if s.document = d.id then .ok s.nodes else .error .foreignSelection

def selectNodes (d : Document) (text : String) : Lookup (List NodeId) := do
  let list ← Lookup.relativeSelector text
  return list.queryAll d.tree .document

def nodesOf (d : Document) (operation : String) (operand : Operand) : Lookup (List NodeId) :=
  match operand with
  | .selector text => d.selectNodes text
  | .markup _ => .error (.markupNotAccepted operation)
  | .node n => d.known [n]
  | .nodes ns => d.known ns
  | .selection s => d.own s

end Document

-- An operation on a document. After a failure the document is there as it was left.
abbrev DocumentM := EStateM LookupError Document

namespace DocumentM

def look {α : Type} (f : Document → Lookup α) : DocumentM α := do
  match f (← get) with
  | .ok a => return a
  | .error e => throw e

def issue (nodes : List NodeId) (history : List Stage) : DocumentM Selection :=
  modifyGet fun d => (⟨d.id, d.issued, nodes, history⟩, { d with issued := d.issued + 1 })

def grow (markup : String) : DocumentM (List NodeId) :=
  modifyGet fun d =>
    let (t, roots) := d.reader.parseFragment d.config d.tree markup
    (roots, { d with tree := t })

def resolve (operation : String) (operand : Operand) : DocumentM (List NodeId) :=
  match operand with
  | .markup text => grow text
  | operand => look (·.nodesOf operation operand)

end DocumentM

def Selection.chain (s : Selection) (nodes : List NodeId) : DocumentM Selection :=
  DocumentM.issue nodes (s.stage :: s.history)

def Selection.previous (s : Selection) : DocumentM Selection :=
  match s.history with
  | stage :: history => return ⟨s.document, stage.serial, stage.nodes, history⟩
  | [] => DocumentM.issue [] []

namespace Document

def root : DocumentM Selection := DocumentM.issue [.document] []

def empty : DocumentM Selection := DocumentM.issue [] []

def select (text : String) : DocumentM Selection := do
  DocumentM.issue (← DocumentM.look (·.selectNodes text)) []

def selectInNodes (text : String) (operand : Operand) : DocumentM (List NodeId) := do
  let list ← DocumentM.look fun _ => Lookup.relativeSelector text
  let scopes ← DocumentM.resolve "select_in" operand
  let t := (← get).tree
  return (scopes.flatMap (list.queryAll t)).eraseDups

def selectIn (text : String) (operand : Operand) : DocumentM Selection := do
  DocumentM.issue (← selectInNodes text operand) []

def fragment (markup : String) : DocumentM Selection := do
  DocumentM.issue (← DocumentM.grow markup) []

def wrap (ns : List NodeId) : DocumentM Selection := do
  DocumentM.issue (← DocumentM.look (·.known ns)).eraseDups []

end Document

end DomQuery
