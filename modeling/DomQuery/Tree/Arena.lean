import DomQuery.Tree.Node

set_option autoImplicit false

namespace DomQuery

structure Tree where
  nodes : Array Node

namespace Tree

def new : Tree := ⟨#[⟨.document, {}⟩]⟩

instance : Inhabited Tree := ⟨new⟩

def size (t : Tree) : Nat := t.nodes.size

def isEmpty (t : Tree) : Bool := t.nodes.isEmpty

def node? (t : Tree) (n : NodeId) : Option Node := t.nodes[n.index]?

def has (t : Tree) (n : NodeId) : Bool := n.isValid && n.index < t.size

def ids (t : Tree) : List NodeId := (List.range t.size).map NodeId.ofIndex

def payload? (t : Tree) (n : NodeId) : Option Payload := (t.node? n).map (·.payload)

def links (t : Tree) (n : NodeId) : Links := ((t.node? n).map (·.links)).getD {}

def parent (t : Tree) (n : NodeId) : Option NodeId := (t.links n).parent

def firstChild (t : Tree) (n : NodeId) : Option NodeId := (t.links n).firstChild

def lastChild (t : Tree) (n : NodeId) : Option NodeId := (t.links n).lastChild

def prevSibling (t : Tree) (n : NodeId) : Option NodeId := (t.links n).prevSibling

def nextSibling (t : Tree) (n : NodeId) : Option NodeId := (t.links n).nextSibling

def nodeType? (t : Tree) (n : NodeId) : Option NodeType := (t.payload? n).map (·.type)

def element? (t : Tree) (n : NodeId) : Option Element := (t.payload? n).bind (·.element?)

def isElement (t : Tree) (n : NodeId) : Bool := (t.element? n).isSome

def text? (t : Tree) (n : NodeId) : Option String := (t.payload? n).bind (·.text?)

def tagName? (t : Tree) (n : NodeId) : Option String := (t.element? n).map (·.name)

def attr? (t : Tree) (n : NodeId) (name : String) : Option String :=
  (t.element? n).bind (·.attr? name)

def modify (t : Tree) (n : NodeId) (f : Node → Node) : Tree := ⟨t.nodes.modify n.index f⟩

def modifyLinks (t : Tree) (n : NodeId) (f : Links → Links) : Tree :=
  t.modify n fun node => { node with links := f node.links }

def modifyElement (t : Tree) (n : NodeId) (f : Element → Element) : Tree :=
  t.modify n fun node => { node with payload := node.payload.mapElement f }

def nextId (t : Tree) : NodeId := .ofIndex t.size

def push (t : Tree) (p : Payload) : Tree := ⟨t.nodes.push ⟨p, {}⟩⟩

def setAttr (t : Tree) (n : NodeId) (name value : String) : Tree :=
  t.modifyElement n (·.setAttr name value)

def takeAttr (t : Tree) (n : NodeId) (name : String) : Option String × Tree :=
  match t.element? n with
  | some e =>
      let taken := e.takeAttr name
      (taken.1, t.modifyElement n fun _ => taken.2)
  | none => (none, t)

theorem node_modify (t : Tree) (n m : NodeId) (f : Node → Node) :
    (t.modify n f).node? m = if m = n then (t.node? m).map f else t.node? m := by
  by_cases same : m = n
  · subst same
    simp [modify, node?, Array.getElem?_modify]
  · have apart : n.index ≠ m.index := fun eq => same (NodeId.index_injective _ _ eq.symm)
    simp [modify, node?, Array.getElem?_modify, same, apart]

theorem size_modify (t : Tree) (n : NodeId) (f : Node → Node) : (t.modify n f).size = t.size := by
  simp [modify, size]

theorem size_push (t : Tree) (p : Payload) : (t.push p).size = t.size + 1 := by
  simp [push, size]

end Tree

end DomQuery
