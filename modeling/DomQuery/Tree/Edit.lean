import DomQuery.Tree.Walk

set_option autoImplicit false

namespace DomQuery.Tree

-- One change for the node beside a gap or, where there is none, another one for the parent.
def bridge (t : Tree) (beside parent : Option NodeId) (link cap : Links → Links) : Tree :=
  match beside, parent with
  | some n, _ => t.modifyLinks n link
  | none, some n => t.modifyLinks n cap
  | none, none => t

def unlink (t : Tree) (n : NodeId) : Tree :=
  let passed := t.bridge (t.prevSibling n) (t.parent n)
    (fun l => { l with nextSibling := t.nextSibling n })
    (fun l => { l with firstChild := t.nextSibling n })
  passed.bridge (t.nextSibling n) (t.parent n)
    (fun l => { l with prevSibling := t.prevSibling n })
    (fun l => { l with lastChild := t.prevSibling n })

def detach (t : Tree) (n : NodeId) : Tree :=
  if t.has n then
    (t.unlink n).modifyLinks n fun l =>
      { l with parent := none, prevSibling := none, nextSibling := none }
  else t

def linkLast (t : Tree) (parent child : NodeId) : Tree :=
  let last := t.lastChild parent
  let t := t.modifyLinks child fun l =>
    { l with parent := some parent, prevSibling := last, nextSibling := none }
  let t := match last with
    | some prev => t.modifyLinks prev fun l => { l with nextSibling := some child }
    | none => t.modifyLinks parent fun l => { l with firstChild := some child }
  t.modifyLinks parent fun l => { l with lastChild := some child }

def canAppend (t : Tree) (parent child : NodeId) : Bool :=
  t.has parent && t.has child && parent ≠ child && !t.contains child parent

def appendChild (t : Tree) (parent child : NodeId) : Tree :=
  if t.canAppend parent child then (t.detach child).linkLast parent child else t

end DomQuery.Tree
