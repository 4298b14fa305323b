import DomQuery.Proofs.Forest.Run

set_option autoImplicit false

namespace DomQuery.Tree

namespace WellFormed

variable {t : Tree} (formed : t.WellFormed) (n : NodeId)

include formed

-- The two kinds of links are inverse to each other, between any two neighbours.
theorem next_iff_prev (m : NodeId) : t.nextSibling n = some m ↔ t.prevSibling m = some n := by
  constructor
  · intro next
    obtain ⟨p, front, back, _, split⟩ := formed.row_of_neighbour n m (Or.inr next)
    rw [formed.next_of_split p n front back split, List.head?_eq_some_iff] at next
    obtain ⟨rest, later⟩ := next
    have turned : t.children p = (front ++ [n]) ++ m :: rest := by
      rw [split, later, List.append_assoc, List.singleton_append]
    rw [formed.prev_of_split p m _ rest turned, List.getLast?_concat]
  · intro prev
    obtain ⟨p, front, back, _, split⟩ := formed.row_of_neighbour m n (Or.inl prev)
    rw [formed.prev_of_split p m front back split, List.getLast?_eq_some_iff] at prev
    obtain ⟨rest, earlier⟩ := prev
    have turned : t.children p = rest ++ n :: m :: back := by
      rw [split, earlier, List.append_assoc, List.singleton_append]
    rw [formed.next_of_split p n rest _ turned, List.head?_cons]

theorem children_iff (p : NodeId) (ns : List NodeId) :
    Visits t.nextSibling (t.firstChild p) ns ↔ ns = t.children p :=
  visits_iff t.nextSibling (t.firstChild p) _ ns (formed.row_children p).forward

theorem following_iff (ns : List NodeId) :
    Visits t.nextSibling (t.nextSibling n) ns ↔ ns = t.followingSiblings n :=
  visits_iff t.nextSibling (t.nextSibling n) _ ns (formed.visits_following n)

theorem preceding_iff (ns : List NodeId) :
    Visits t.prevSibling (t.prevSibling n) ns ↔ ns = t.precedingSiblings n :=
  visits_iff t.prevSibling (t.prevSibling n) _ ns (formed.visits_preceding n)

theorem siblings_in_line (p : NodeId) (parent : t.parent n = some p) :
    (t.precedingSiblings n).reverse ++ n :: t.followingSiblings n = t.children p := by
  obtain ⟨front, back, split, preceding, following⟩ := formed.split_at_child p n parent
  rw [preceding, following, List.reverse_reverse, split]

theorem siblings_apart_in_line :
    ((t.precedingSiblings n).reverse ++ n :: t.followingSiblings n).Nodup := by
  cases parent : t.parent n with
  | none =>
      rw [formed.preceding_root n parent, formed.following_root n parent]
      exact List.nodup_singleton n
  | some p =>
      rw [formed.siblings_in_line n p parent]
      exact (formed.row_children p).distinct

end WellFormed

theorem siblings_part_children (t : Tree) (formed : t.WellFormed) (n : NodeId) :
    (∀ p, t.parent n = some p →
      (t.precedingSiblings n).reverse ++ n :: t.followingSiblings n = t.children p ∧
        ∀ ns, Visits t.nextSibling (t.firstChild p) ns ↔ ns = t.children p) ∧
      (t.parent n = none → t.precedingSiblings n = [] ∧ t.followingSiblings n = []) ∧
      (∀ m, t.nextSibling n = some m ↔ t.prevSibling m = some n) ∧
      (∀ ns, Visits t.prevSibling (t.prevSibling n) ns ↔ ns = t.precedingSiblings n) ∧
      (∀ ns, Visits t.nextSibling (t.nextSibling n) ns ↔ ns = t.followingSiblings n) ∧
      ((t.precedingSiblings n).reverse ++ n :: t.followingSiblings n).Nodup := by
  refine ⟨fun p parent => ?_, fun root => ?_, formed.next_iff_prev n, formed.preceding_iff n,
    formed.following_iff n, formed.siblings_apart_in_line n⟩
  · exact ⟨formed.siblings_in_line n p parent, formed.children_iff p⟩
  · exact ⟨formed.preceding_root n root, formed.following_root n root⟩

theorem text_amid_items :
    let element (name : String) : Edit := .create (.element ⟨name, .empty⟩)
    let t := Tree.new.editAll
      [element "ul", element "li", element "li", .create (.text "and"), element "li",
        .create (.comment "or"), .append ⟨0⟩ ⟨1⟩, .append ⟨1⟩ ⟨2⟩, .append ⟨1⟩ ⟨3⟩,
        .append ⟨1⟩ ⟨4⟩, .append ⟨1⟩ ⟨5⟩, .append ⟨1⟩ ⟨6⟩, .detach ⟨3⟩, .append ⟨1⟩ ⟨5⟩]
    t.WellFormed ∧ t.parent ⟨4⟩ = some ⟨1⟩ ∧ t.parent ⟨3⟩ = none ∧
      Visits t.prevSibling (t.prevSibling ⟨4⟩) [⟨2⟩] ∧
      Visits t.nextSibling (t.nextSibling ⟨4⟩) [⟨6⟩, ⟨5⟩] ∧
      t.children ⟨1⟩ = [⟨2⟩, ⟨4⟩, ⟨6⟩, ⟨5⟩] ∧ t.followingSiblings ⟨3⟩ = [] := by
  intro element t
  have formed : t.WellFormed := Tree.well_formed_new.well_formed_edit_all _ (by decide +kernel)
  have parent : t.parent ⟨4⟩ = some ⟨1⟩ := by decide +kernel
  have root : t.parent ⟨3⟩ = none := by decide +kernel
  obtain ⟨row, _, _, back, on, _⟩ := siblings_part_children t formed ⟨4⟩
  obtain ⟨_, alone, _⟩ := siblings_part_children t formed ⟨3⟩
  have before : t.precedingSiblings ⟨4⟩ = [⟨2⟩] := by decide +kernel
  have behind : t.followingSiblings ⟨4⟩ = [⟨6⟩, ⟨5⟩] := by decide +kernel
  refine ⟨formed, parent, root, (back _).mpr before.symm, (on _).mpr behind.symm, ?_, (alone root).2⟩
  rw [← (row ⟨1⟩ parent).1, before, behind]
  rfl

end DomQuery.Tree
