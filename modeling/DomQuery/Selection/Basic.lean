import DomQuery.Text.Quoted
import DomQuery.Tree.Node

set_option autoImplicit false

namespace DomQuery.Markup

-- From `<` to `>` with something between them, blanks around the text aside.
def isMarkup (s : String) : Bool :=
  match DomQuery.Text.trim s.toList with
  | '<' :: c :: cs => (c :: cs).getLast? == some '>' && cs ≠ []
  | _ => false

end DomQuery.Markup

namespace DomQuery

structure Stage where
  serial : Nat
  nodes : List NodeId
deriving DecidableEq

-- Serial numbers tell selections of one document apart even if they hold the same nodes. The
-- history has the latest stage first.
structure Selection where
  document : Nat
  serial : Nat
  nodes : List NodeId
  history : List Stage := []
deriving DecidableEq

namespace Selection

def stage (s : Selection) : Stage := ⟨s.serial, s.nodes⟩

def isSame (s other : Selection) : Bool := s.document = other.document && s.serial = other.serial

def size (s : Selection) : Nat := s.nodes.length

def isEmpty (s : Selection) : Bool := s.nodes.isEmpty

def place? (length : Nat) (index : Int) : Option Nat :=
  if 0 ≤ index then some index.toNat
  else if index.natAbs ≤ length then some (length - index.natAbs)
  else none

def bound (length : Nat) (index : Int) : Nat :=
  if 0 ≤ index then min index.toNat length else length - index.natAbs

def get? (s : Selection) (index : Int) : Option NodeId :=
  (place? s.size index).bind (s.nodes[·]?)

def range (s : Selection) (first : Int) (last : Option Int) : List NodeId :=
  (s.nodes.take ((last.map (bound s.size)).getD s.size)).drop (bound s.size first)

end Selection

inductive Operand where
  | selector (text : String)
  | markup (text : String)
  | node (n : NodeId)
  | nodes (ns : List NodeId)
  | selection (s : Selection)

def Operand.ofText (text : String) : Operand :=
  if Markup.isMarkup text then .markup text else .selector text

inductive Criterion where
  | operand (operand : Operand)
  | predicate (holds : Nat → NodeId → Bool)

def Criterion.ofText (text : String) : Criterion := .operand (.ofText text)

-- How far a walk along siblings or ancestors goes. What the extent names is left out.
inductive Extent where
  | unbounded
  | selector (text : String)
  | node (n : NodeId)
  | selection (s : Selection)

def NodeId.inspect (n : NodeId) : String := "NodeId(" ++ n.index.repr ++ ")"

def inspectNodes (ns : List NodeId) : String :=
  "[" ++ String.intercalate ", " (ns.map NodeId.inspect) ++ "]"

def Operand.inspect : Operand → String
  | selector text => "Selector(" ++ text.quoted ++ ")"
  | markup text => "Markup(" ++ text.quoted ++ ")"
  | node n => "Node(" ++ n.inspect ++ ")"
  | nodes ns => "Nodes(" ++ inspectNodes ns ++ ")"
  | selection s => "Selection(" ++ inspectNodes s.nodes ++ ")"

def Selection.inspect (s : Selection) : String :=
  "Selection \x7b nodes: " ++ inspectNodes s.nodes ++ ", has_prev: " ++
    (if s.history.isEmpty then "false" else "true") ++ " \x7d"

end DomQuery
