import DomQuery.Proofs.Forest.Basic

set_option autoImplicit false

namespace DomQuery

theorem visits_met (step : NodeId → Option NodeId) (start : Option NodeId) (ns : List NodeId)
    (walk : Visits step start ns) (n : NodeId) (met : n ∈ ns) :
    start = some n ∨ ∃ m, step m = some n := by
  induction ns generalizing start with
  | nil => simp at met
  | cons m ns ih =>
      rcases List.mem_cons.mp met with here | later
      · rw [here]
        exact Or.inl walk.1
      · rcases ih (step m) walk.2 later with first | further
        · exact Or.inr ⟨m, first⟩
        · exact Or.inr further

namespace Tree

def subtree (t : Tree) (n : NodeId) : List NodeId := n :: t.descendants n

theorem after_self (t : Tree) (n : NodeId) : t.after n n = none := by
  simp [after]

theorem successor_self (t : Tree) (n : NodeId) : t.successor n n = t.firstChild n := by
  rw [successor, after_self, Option.or_none]

namespace WellFormed

variable {t : Tree} (formed : t.WellFormed)

include formed

theorem first_child_of_row (p : NodeId) : t.firstChild p = (t.children p).head? :=
  visits_head _ _ _ (formed.row_children p).forward

theorem after_step (r n : NodeId) (below : n ≠ r) :
    t.after r n = (t.nextSibling n).or ((t.parent n).bind (t.after r)) := by
  rw [after, List.takeWhile_cons_of_pos (by simpa using below), List.findSome?_cons]
  cases parent : t.parent n with
  | none =>
      rw [formed.ancestors_root n parent]
      cases t.nextSibling n <;> rfl
  | some p =>
      rw [formed.ancestors_child n p parent]
      cases t.nextSibling n <;> rfl

theorem after_child (r n c : NodeId) (above : r = n ∨ r ∈ t.ancestors n)
    (parent : t.parent c = some n) : t.after r c = (t.nextSibling c).or (t.after r n) := by
  have below : r ∈ t.ancestors c := (formed.mem_ancestors_child r c n parent).mpr above
  have other : c ≠ r := by
    intro same
    rw [same] at below
    exact formed.not_own_ancestor r below
  rw [formed.after_step r c other, parent, Option.bind_some]

theorem successor_inside (r n m : NodeId) (next : t.successor r n = some m) : t.has m := by
  rw [successor, Option.or_eq_some_iff] at next
  rcases next with child | ⟨_, further⟩
  · exact formed.inside n m (by simp [Links.targets, show (t.links n).firstChild = some m from child])
  · obtain ⟨_, k, _, _, sibling, _⟩ := List.findSome?_eq_some_iff.mp further
    exact formed.inside k m
      (by simp [Links.targets, show (t.links k).nextSibling = some m from sibling])

theorem descendants_of_visits (n : NodeId) (ns : List NodeId)
    (walk : Visits (t.successor n) (t.successor n n) ns) : t.descendants n = ns := by
  have known : ∀ m ∈ ns, m.index < t.size := by
    intro m met
    rcases visits_met _ _ _ walk m met with first | ⟨k, later⟩
    · exact formed.index_of_has m (formed.successor_inside n n m first)
    · exact formed.index_of_has m (formed.successor_inside n k m later)
  rw [successor_self] at walk
  exact follow_visits _ t.size _ ns walk (length_le_size t ns (visits_nodup _ _ _ walk) known)

-- Seen from `r`, the walk goes through all that is below `n` and then past `n`.
theorem segment_below (r n : NodeId) (above : r = n ∨ r ∈ t.ancestors n) :
    Segment (t.successor r) (t.successor r n) ((t.children n).flatMap t.subtree) (t.after r n) := by
  induction n using formed.induction_down generalizing r with
  | step n ih =>
      have parents : ∀ c ∈ t.children n, t.parent c = some n := fun c => (formed.mem_children n c).mp
      -- The children that are still to come, with the walk standing at the first of them.
      have along : ∀ front back, t.children n = front ++ back →
          Segment (t.successor r) (back.head?.or (t.after r n)) (back.flatMap t.subtree)
            (t.after r n) := by
        intro front back
        induction back generalizing front with
        | nil => exact fun _ => rfl
        | cons c back inner =>
            intro split
            have member : c ∈ t.children n := by simp [split]
            have parent := parents c member
            have listing := formed.descendants_of_visits c _
              (by simpa [after_self] using ih c member c (Or.inl rfl))
            have own := ih c member r (Or.inr ((formed.mem_ancestors_child r c n parent).mpr above))
            rw [← listing, formed.after_child r n c above parent,
              formed.next_of_split n c front back split] at own
            refine ⟨rfl, ?_⟩
            exact (segment_append _ _ _ _ _).mpr ⟨_, own, inner (front ++ [c]) (by simp [split])⟩
      have whole := along [] (t.children n) rfl
      rwa [← formed.first_child_of_row] at whole

theorem descendants_eq (n : NodeId) : t.descendants n = (t.children n).flatMap t.subtree :=
  formed.descendants_of_visits n _
    (by simpa [after_self] using formed.segment_below n n (Or.inl rfl))

theorem visits_descendants (n : NodeId) :
    Visits (t.successor n) (t.firstChild n) (t.descendants n) := by
  have walk := formed.segment_below n n (Or.inl rfl)
  rwa [after_self, successor_self, ← formed.descendants_eq] at walk

theorem descendants_nodup (n : NodeId) : (t.descendants n).Nodup :=
  visits_nodup _ _ _ (formed.visits_descendants n)

theorem mem_descendants (n m : NodeId) : m ∈ t.descendants n ↔ n ∈ t.ancestors m := by
  induction n using formed.induction_down generalizing m with
  | step n ih =>
      rw [formed.descendants_eq, formed.mem_ancestors, Relation.TransGen.tail'_iff, List.mem_flatMap]
      refine exists_congr fun c => ?_
      rw [formed.mem_children, and_comm]
      refine and_congr_left fun parent => ?_
      rw [subtree, List.mem_cons, ih c ((formed.mem_children n c).mpr parent) m, formed.mem_ancestors,
        Relation.reflTransGen_iff_eq_or_transGen, eq_comm]

theorem has_descendant (n m : NodeId) (below : m ∈ t.descendants n) : t.has m :=
  formed.has_below n m ((formed.mem_descendants n m).mp below)

theorem mem_subtree (n m : NodeId) : m ∈ t.subtree n ↔ m = n ∨ n ∈ t.ancestors m := by
  rw [subtree, List.mem_cons, formed.mem_descendants]

theorem children_of_descendants (n : NodeId) :
    (t.descendants n).filter (t.parent · = some n) = t.children n := by
  have alone : ∀ c ∈ t.children n, (t.subtree c).filter (t.parent · = some n) = [c] := by
    intro c child
    have parent := (formed.mem_children n c).mp child
    have others : (t.descendants c).filter (t.parent · = some n) = [] := by
      refine List.filter_eq_nil_iff.mpr fun m below => ?_
      rw [decide_eq_true_eq]
      intro again
      have above := (formed.mem_descendants c m).mp below
      rw [formed.ancestors_child m n again, ← formed.ancestors_child c n parent] at above
      exact formed.not_own_ancestor c above
    rw [subtree, List.filter_cons, others, if_pos (decide_eq_true parent)]
  rw [formed.descendants_eq, List.filter_flatMap, List.flatMap_congr alone, List.flatMap_singleton']

theorem subtree_of_child (p n : NodeId) (parent : t.parent n = some p) :
    t.subtree n <:+: t.descendants p := by
  rw [formed.descendants_eq]
  exact List.infix_flatMap_of_mem ((formed.mem_children p n).mpr parent) t.subtree

theorem subtree_below (a n : NodeId) (above : a ∈ t.ancestors n) :
    t.subtree n <:+: t.descendants a := by
  induction n using formed.induction_up with
  | step n ih =>
      cases parent : t.parent n with
      | none =>
          rw [formed.ancestors_root n parent] at above
          cases above
      | some p =>
          have here := formed.subtree_of_child p n parent
          rcases (formed.mem_ancestors_child a n p parent).mp above with rfl | further
          · exact here
          · exact (here.trans (List.suffix_cons p _).isInfix).trans (ih p parent further)

end WellFormed

-- Looked at from above, the nodes of `ns` are the same in both trees.
def SameAt (t u : Tree) (ns : List NodeId) : Prop :=
  ∀ n ∈ ns, u.payload? n = t.payload? n ∧ u.children n = t.children n

theorem SameAt.child {t u : Tree} (formed : t.WellFormed) (n c : NodeId)
    (same : t.SameAt u (t.subtree n)) (child : c ∈ t.children n) : t.SameAt u (t.subtree c) := by
  intro m below
  refine same m (List.mem_cons_of_mem n ?_)
  rw [formed.descendants_eq]
  exact List.mem_flatMap.mpr ⟨c, child, below⟩

namespace WellFormed

variable {t u : Tree} (formed : t.WellFormed)

include formed

theorem subtree_eq (n : NodeId) : t.subtree n = n :: (t.children n).flatMap t.subtree := by
  rw [subtree, formed.descendants_eq]

theorem subtree_same (formedU : u.WellFormed) (n : NodeId) (same : t.SameAt u (t.subtree n)) :
    u.subtree n = t.subtree n := by
  induction n using formed.induction_down with
  | step n ih =>
      rw [formedU.subtree_eq, formed.subtree_eq, (same n List.mem_cons_self).2]
      refine congrArg (n :: ·) (List.flatMap_congr fun c child => ?_)
      exact ih c child (same.child formed n c child)

end WellFormed

end Tree

end DomQuery
