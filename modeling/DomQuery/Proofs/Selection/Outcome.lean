import DomQuery.Proofs.Forest.Order
import DomQuery.Selection.Relatives
import DomQuery.Selection.Members

set_option autoImplicit false

namespace DomQuery

def DocumentM.yields (operation : DocumentM Selection) (d : Document) : Option (List NodeId) :=
  match operation.run d with
  | .ok s _ => some s.nodes
  | .error _ _ => none

theorem DocumentM.yields_of_run (operation : DocumentM Selection) (d d' : Document) (s : Selection)
    (ran : operation.run d = .ok s d') : operation.yields d = some s.nodes := by
  rw [yields, ran]

theorem DocumentM.yields_bind {α : Type} (first : DocumentM α) (rest : α → DocumentM Selection)
    (d d' : Document) (a : α) (ran : first.run d = .ok a d') :
    (first >>= rest).yields d = (rest a).yields d' := by
  rw [yields, yields, EStateM.run_bind, ran]

def Document.next (d : Document) : Document := { d with issued := d.issued + 1 }

namespace Selection

-- Made from nodes of the document, now and at every earlier stage.
structure BelongsTo (s : Selection) (d : Document) : Prop where
  home : s.document = d.id
  known : ∀ n ∈ s.nodes, d.tree.has n
  past : ∀ stage ∈ s.history, ∀ n ∈ stage.nodes, d.tree.has n

def earlier (s : Selection) : List NodeId := (s.history.head?.map Stage.nodes).getD []

def derived (s : Selection) (d : Document) (nodes : List NodeId) : Selection :=
  ⟨d.id, d.issued, nodes, s.stage :: s.history⟩

namespace BelongsTo

variable {s : Selection} {d : Document} (own : s.BelongsTo d)

include own

theorem next : s.BelongsTo d.next := ⟨own.home, own.known, own.past⟩

theorem known_earlier (n : NodeId) (member : n ∈ s.earlier) : d.tree.has n := by
  rw [earlier] at member
  cases history : s.history with
  | nil => simp [history] at member
  | cons stage stages =>
      rw [history] at member
      exact own.past stage (by simp [history]) n member

theorem derived (nodes : List NodeId) (known : ∀ n ∈ nodes, d.tree.has n) :
    (s.derived d nodes).BelongsTo d.next := by
  refine ⟨rfl, known, fun stage member => ?_⟩
  rcases List.mem_cons.mp member with latest | older
  · rw [latest]
    exact own.known
  · exact own.past stage older

end BelongsTo

theorem run_join (s : Selection) (extra : List NodeId) (d : Document) :
    (s.join extra).run d = .ok (s.derived d (s.joinNodes extra d.tree)) d.next := rfl

end Selection

namespace DocumentM

theorem run_look {α : Type} (f : Document → Lookup α) (d : Document) :
    (look f).run d = match f d with
      | .ok a => .ok a d
      | .error e => .error e d := by
  change (match f d with | .ok a => pure a | .error e => throw e : DocumentM α).run d = _
  cases f d <;> rfl

theorem run_resolve (operation : String) (operand : Operand) (d : Document) (ns : List NodeId)
    (answer : d.nodesOf operation operand = .ok ns) :
    (resolve operation operand).run d = .ok ns d := by
  have plain : ∀ text, operand ≠ .markup text := by
    rintro text rfl
    cases answer
  rw [resolve, run_look, answer]
  exact plain

end DocumentM

theorem Document.known_of_has (d : Document) (ns : List NodeId) (inside : ∀ n ∈ ns, d.tree.has n) :
    d.known ns = .ok ns := by
  have none : ns.find? (!d.tree.has ·) = none := by simpa using inside
  rw [known, none]

namespace Selection

theorem run_looked (s : Selection) (f : Document → Lookup (List NodeId)) (d : Document)
    (ns : List NodeId) (found : f d = .ok ns) :
    (DocumentM.look f >>= s.chain).run d = .ok (s.derived d ns) d.next := by
  rw [EStateM.run_bind, DocumentM.run_look, found]
  rfl

theorem yields_looked (s : Selection) (f : Document → Lookup (List NodeId)) (d : Document)
    (ns : List NodeId) (found : f d = .ok ns) :
    (DocumentM.look f >>= s.chain).yields d = some ns :=
  DocumentM.yields_of_run _ d _ _ (s.run_looked f d ns found)

theorem run_previous (s : Selection) (d : Document) :
    ∃ p d', s.previous.run d = .ok p d' ∧ p.nodes = s.earlier ∧ d'.tree = d.tree := by
  rw [previous, earlier]
  cases s.history with
  | nil => exact ⟨⟨d.id, d.issued, [], []⟩, d.next, rfl, rfl, rfl⟩
  | cons stage stages => exact ⟨⟨s.document, stage.serial, stage.nodes, stages⟩, d, rfl, rfl, rfl⟩

theorem run_filter (s : Selection) (criterion : Criterion) (d : Document) :
    (s.filter criterion).run d = match s.tests "filter" criterion d with
      | .ok answers => .ok (s.derived d (s.keep answers true)) d.next
      | .error e => .error e d := by
  rw [filter, EStateM.run_bind, DocumentM.run_look]
  cases s.tests "filter" criterion d <;> rfl

theorem mem_of_kept (s : Selection) (answers : List Bool) (wanted : Bool) (n : NodeId)
    (kept : n ∈ s.keep answers wanted) : n ∈ s.nodes := by
  obtain ⟨⟨m, answer⟩, found, same⟩ := List.mem_map.mp kept
  rw [← same]
  exact (List.of_mem_zip (List.mem_filter.mp found).1).1

end Selection

end DomQuery
