import DomQuery.Tree.Arena

set_option autoImplicit false

namespace DomQuery

-- The nodes met on the way from `start` by taking `step` again and again, at most `limit`.
def follow (step : NodeId → Option NodeId) : Nat → Option NodeId → List NodeId
  | 0, _ => []
  | _ + 1, none => []
  | limit + 1, some n => n :: follow step limit (step n)

namespace Tree

def ancestors (t : Tree) (n : NodeId) : List NodeId := follow t.parent t.size (t.parent n)

def children (t : Tree) (n : NodeId) : List NodeId := follow t.nextSibling t.size (t.firstChild n)

def elementChildren (t : Tree) (n : NodeId) : List NodeId := (t.children n).filter t.isElement

def followingSiblings (t : Tree) (n : NodeId) : List NodeId :=
  follow t.nextSibling t.size (t.nextSibling n)

def precedingSiblings (t : Tree) (n : NodeId) : List NodeId :=
  follow t.prevSibling t.size (t.prevSibling n)

-- What comes after `n` and all below it, as long as that lies below `root`: the next sibling of
-- the first of `n` and its ancestors that has one.
def after (t : Tree) (root n : NodeId) : Option NodeId :=
  ((n :: t.ancestors n).takeWhile (· ≠ root)).findSome? t.nextSibling

def successor (t : Tree) (root n : NodeId) : Option NodeId := (t.firstChild n).or (t.after root n)

def descendants (t : Tree) (n : NodeId) : List NodeId :=
  follow (t.successor n) t.size (t.firstChild n)

def contains (t : Tree) (ancestor n : NodeId) : Bool :=
  ancestor ≠ n && (t.ancestors n).contains ancestor

def rootOf (t : Tree) (n : NodeId) : NodeId := (t.ancestors n).getLastD n

def elementIndex? (t : Tree) (n : NodeId) : Option Nat :=
  (t.parent n).bind fun parent => (t.elementChildren parent).idxOf? n

def textContent (t : Tree) (n : NodeId) : String :=
  (t.text? n).getD (String.join ((t.descendants n).filterMap t.text?))

def path (t : Tree) (n : NodeId) : List NodeId := (t.ancestors n).reverse ++ [n]

def firstOf (a b : NodeId) : List NodeId → Option Ordering
  | [] => none
  | n :: ns => if n = a then some .lt else if n = b then some .gt else firstOf a b ns

-- Two paths compared below `above`, the last node that they share.
def comparePaths (t : Tree) (above : Option NodeId) : List NodeId → List NodeId → Option Ordering
  | [], [] => some .eq
  | [], _ :: _ => some .lt
  | _ :: _, [] => some .gt
  | a :: as, b :: bs =>
      if a = b then t.comparePaths (some a) as bs
      else above.bind fun parent => firstOf a b (t.children parent)

def compareOrder (t : Tree) (a b : NodeId) : Option Ordering :=
  if a = b then some .eq else t.comparePaths none (t.path a) (t.path b)

def precedesOrEq (t : Tree) (a b : NodeId) : Bool :=
  match t.compareOrder a b with
  | some order => order.isLE
  | none => (t.rootOf a).word ≤ (t.rootOf b).word

def sortDocumentOrder (t : Tree) (ns : List NodeId) : List NodeId := ns.mergeSort t.precedesOrEq

end Tree

end DomQuery
