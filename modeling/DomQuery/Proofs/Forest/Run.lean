import DomQuery.Proofs.Forest.Edit
import DomQuery.Proofs.Forest.Preorder

set_option autoImplicit false

namespace DomQuery

inductive Edit where
  | create (payload : Payload)
  | append (parent child : NodeId)
  | detach (n : NodeId)

namespace Tree

def edit (t : Tree) : Edit → Tree
  | .create payload => t.push payload
  | .append parent child => t.appendChild parent child
  | .detach n => t.detach n

def editAll (t : Tree) (edits : List Edit) : Tree := edits.foldl edit t

theorem size_append_child (t : Tree) (parent child : NodeId) :
    (t.appendChild parent child).size = t.size := by
  unfold appendChild
  split
  · rw [size_link_last, size_detach]
  · rfl

theorem size_edit (t : Tree) (e : Edit) : t.size ≤ (t.edit e).size := by
  cases e with
  | create payload => exact Nat.le_of_lt (by rw [edit, size_push]; exact Nat.lt_succ_self _)
  | append parent child => exact Nat.le_of_eq (size_append_child t parent child).symm
  | detach n => exact Nat.le_of_eq (size_detach t n).symm

theorem size_edit_all (t : Tree) (edits : List Edit) : t.size ≤ (t.editAll edits).size := by
  induction edits generalizing t with
  | nil => exact Nat.le_refl _
  | cons e edits ih => exact Nat.le_trans (size_edit t e) (ih (t.edit e))

theorem payload_edit (t : Tree) (e : Edit) (n : NodeId) (old : n.index < t.size) :
    (t.edit e).payload? n = t.payload? n := by
  cases e with
  | create payload =>
      simp only [edit, push, payload?, node?, Array.getElem?_push_lt old,
        Array.getElem?_eq_getElem old]
  | append parent child =>
      by_cases fits : t.canAppend parent child
      · rw [edit, appendChild, if_pos fits, payload_link_last, payload_detach]
      · rw [edit, appendChild, if_neg fits]
  | detach m => exact payload_detach t m n

theorem payload_edit_all (t : Tree) (edits : List Edit) (n : NodeId) (old : n.index < t.size) :
    (t.editAll edits).payload? n = t.payload? n := by
  induction edits generalizing t with
  | nil => rfl
  | cons e edits ih =>
      exact (ih (t.edit e) (Nat.lt_of_lt_of_le old (size_edit t e))).trans (payload_edit t e n old)

theorem document_bare (edits : List Edit) : ¬(new.editAll edits).isElement .document := by
  have kept := payload_edit_all new edits .document (by decide)
  rw [isElement, element?, kept]
  decide

theorem links_new (n : NodeId) : new.links n = {} := by
  rcases Nat.eq_zero_or_pos n.index with first | later
  · simp [links, node?, new, first]
  · exact links_outside new n later

theorem well_formed_new : new.WellFormed := by
  have none (n : NodeId) : new.parent n = none ∧ new.firstChild n = none ∧
      new.lastChild n = none ∧ new.prevSibling n = none ∧ new.nextSibling n = none := by
    simp [parent, firstChild, lastChild, prevSibling, nextSibling, links_new]
  refine ⟨by decide, fun n m target => ?_, fun p => ⟨[], ?_⟩, fun n _ => ?_, fun n => ⟨[], ?_⟩⟩
  · rw [links_new] at target
    cases target
  · exact ⟨(none p).2.1, (none p).2.2.1, List.nodup_nil, fun n => by simp [none n]⟩
  · exact ⟨(none n).2.2.2.1, (none n).2.2.2.2⟩
  · exact (none n).1

namespace WellFormed

variable {t : Tree} (formed : t.WellFormed)

include formed

theorem row_of_links (t' : Tree) (same : ∀ n, t'.links n = t.links n) (p : NodeId) :
    t'.Row p (t.children p) := by
  have sameNext : t'.nextSibling = t.nextSibling :=
    funext fun n => congrArg Links.nextSibling (same n)
  have samePrev : t'.prevSibling = t.prevSibling :=
    funext fun n => congrArg Links.prevSibling (same n)
  have row := formed.row_children p
  refine ⟨?_, ?_, row.distinct, fun n => ?_⟩
  · rw [sameNext, firstChild, same]
    exact row.forward
  · rw [samePrev, lastChild, same]
    exact row.backward
  · rw [Tree.parent, same]
    exact row.members n

theorem well_formed_of_links (t' : Tree) (grown : t.size ≤ t'.size)
    (room : t'.size ≤ NodeId.absent.index) (same : ∀ n, t'.links n = t.links n) : t'.WellFormed := by
  have sameParent : t'.parent = t.parent := funext fun n => congrArg Links.parent (same n)
  refine ⟨room, fun n m target => ?_, fun p => ⟨_, formed.row_of_links t' same p⟩,
    fun n root => ?_, ?_⟩
  · rw [same] at target
    exact (has_iff _ _ room).mpr (Nat.lt_of_lt_of_le (formed.index_of_target n m target) grown)
  · rw [sameParent] at root
    rw [prevSibling, nextSibling, same]
    exact formed.alone n root
  · rw [sameParent]
    exact formed.rooted

-- The new node has no links, and no other node names it.
theorem well_formed_push (payload : Payload) (room : (t.push payload).size ≤ NodeId.absent.index) :
    (t.push payload).WellFormed := by
  have grown : t.size ≤ (t.push payload).size := by
    rw [size_push]
    exact Nat.le_succ _
  exact formed.well_formed_of_links _ grown room (links_push t payload)

theorem well_formed_edit (e : Edit) (room : (t.edit e).size ≤ NodeId.absent.index) :
    (t.edit e).WellFormed := by
  cases e with
  | create payload => exact formed.well_formed_push payload room
  | append parent child => exact formed.well_formed_append_child parent child
  | detach n => exact formed.well_formed_detach n

theorem well_formed_edit_all (edits : List Edit)
    (room : (t.editAll edits).size ≤ NodeId.absent.index) : (t.editAll edits).WellFormed := by
  induction edits generalizing t with
  | nil => exact formed
  | cons e edits ih =>
      have before := Nat.le_trans (size_edit_all (t.edit e) edits) room
      exact ih (formed.well_formed_edit e before) room

theorem no_cycle (n : NodeId) : ¬ Relation.TransGen (fun a b => t.parent a = some b) n n := by
  rw [← formed.mem_ancestors]
  exact formed.not_own_ancestor n

end WellFormed

-- The bounded walks from a node are the unbounded ones, and these come to an end.
structure WalksEnd (t : Tree) (n : NodeId) : Prop where
  children : Visits t.nextSibling (t.firstChild n) (t.children n)
  following : Visits t.nextSibling (t.nextSibling n) (t.followingSiblings n)
  preceding : Visits t.prevSibling (t.prevSibling n) (t.precedingSiblings n)
  ancestors : Visits t.parent (t.parent n) (t.ancestors n)
  descendants : Visits (t.successor n) (t.firstChild n) (t.descendants n)

theorem edits_make_forest (edits : List Edit)
    (room : (new.editAll edits).size ≤ NodeId.absent.index) :
    let t := new.editAll edits
    t.WellFormed ∧
      (∀ n, ¬ Relation.TransGen (fun a b => t.parent a = some b) n n) ∧
      ∀ n, t.WalksEnd n := by
  have formed := well_formed_new.well_formed_edit_all edits room
  exact ⟨formed, formed.no_cycle, fun n => ⟨(formed.row_children n).forward,
    formed.visits_following n, formed.visits_preceding n, formed.visits_ancestors n,
    formed.visits_descendants n⟩⟩

theorem moved_items_forest :
    let t := new.editAll
      [.create (.element ⟨"ul", .empty⟩), .create (.text "a"), .create (.text "b"),
        .append ⟨0⟩ ⟨1⟩, .append ⟨1⟩ ⟨2⟩, .append ⟨1⟩ ⟨3⟩, .append ⟨1⟩ ⟨2⟩, .append ⟨3⟩ ⟨2⟩,
        .append ⟨2⟩ ⟨0⟩, .detach ⟨7⟩, .append NodeId.absent ⟨1⟩]
    t.size ≤ NodeId.absent.index ∧ t.WellFormed ∧
      t.ancestors ⟨2⟩ = [⟨3⟩, ⟨1⟩, ⟨0⟩] ∧ Visits t.parent (t.parent ⟨2⟩) (t.ancestors ⟨2⟩) := by
  intro t
  have room : t.size ≤ NodeId.absent.index := by decide +kernel
  have forest := edits_make_forest _ room
  exact ⟨room, forest.1, by decide +kernel, (forest.2.2 ⟨2⟩).ancestors⟩

end Tree

end DomQuery
