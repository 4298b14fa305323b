import DomQuery.Document

set_option autoImplicit false

namespace DomQuery

structure Collected (α : Type) where
  items : List α
  source : Selection

namespace Collected

variable {α : Type}

def size (m : Collected α) : Nat := m.items.length

def isEmpty (m : Collected α) : Bool := m.items.isEmpty

def get? (m : Collected α) (index : Nat) : Option α := m.items[index]?

def toSelection (m : Collected NodeId) : DocumentM Selection := do
  m.source.chain (← DocumentM.look (·.known m.items)).eraseDups

end Collected

namespace Selection

-- Visits nodes with their places, in order, for as long as a visit wants to go on.
def visit {m : Type → Type} [Monad m] (f : Nat → NodeId → m Bool) : List (NodeId × Nat) → m Unit
  | [] => pure ()
  | (n, index) :: rest => do
      if ← f index n then visit f rest

def each {m : Type → Type} [Monad m] (s : Selection) (f : Nat → NodeId → m Bool) : m Selection := do
  visit f s.nodes.zipIdx
  return s

def map {α : Type} (s : Selection) (f : Nat → NodeId → List α) : Collected α :=
  ⟨s.nodes.zipIdx.flatMap fun (n, index) => f index n, s⟩

end Selection

end DomQuery
