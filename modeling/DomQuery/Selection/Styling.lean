import DomQuery.Document
import DomQuery.Style.Declarations

set_option autoImplicit false

namespace DomQuery

open Style (Declarations)

def Tree.style? (t : Tree) (n : NodeId) : Option Declarations :=
  (t.element? n).map fun e => .parse ((e.attr? "style").getD "")

def Tree.restyle {m : Type → Type} [Monad m] (f : Nat → NodeId → Declarations → m Declarations)
    (t : Tree) : List (NodeId × Nat) → m Tree
  | [] => pure t
  | (n, index) :: rest =>
      match t.style? n with
      | some style => do
          let style ← f index n style
          Tree.restyle f (t.setAttr n "style" style.render) rest
      | none => Tree.restyle f t rest

namespace Selection

def firstStyle? (s : Selection) : DocumentM (Option Declarations) := do
  return (s.get? 0).bind (← get).tree.style?

def css? (s : Selection) (name : String) : DocumentM (Option String) := do
  return (← s.firstStyle?).bind (·.get? name)

def cssMany? (s : Selection) (names : List String) : DocumentM (Option Declarations) := do
  return (← s.firstStyle?).map (·.project names)

def restyle (s : Selection) (f : Declarations → Declarations) : DocumentM Selection := do
  modify fun d =>
    let tree := Id.run (d.tree.restyle (fun _ _ style => f style) s.nodes.zipIdx)
    { d with tree }
  return s

def setCss (s : Selection) (name value : String) : DocumentM Selection :=
  s.restyle (·.set name value)

def setCssAll (s : Selection) (es : List Field) : DocumentM Selection := s.restyle (·.setAll es)

def withProperty (style : Declarations) (name : String) (value : Option String) : Declarations :=
  match value with
  | some value => style.set name value
  | none => style.erase name

-- The tree with the property of each element set to what `f` makes of the index, the node and its
-- present value.
def setCssWithIn {m : Type → Type} [Monad m] (s : Selection) (name : String)
    (f : Nat → NodeId → Option String → m (Option String)) (t : Tree) : m Tree :=
  t.restyle (fun index n style => do
    return withProperty style name (← f index n (style.get? name))) s.nodes.zipIdx

def setCssWith (s : Selection) (name : String)
    (f : Nat → NodeId → Option String → Option String) : DocumentM Selection := do
  modify fun d =>
    let tree := Id.run (s.setCssWithIn name (fun index n value => pure (f index n value)) d.tree)
    { d with tree }
  return s

end Selection

end DomQuery
