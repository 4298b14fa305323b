import DomQuery.Proofs.Walk

set_option autoImplicit false

namespace DomQuery

def Links.targets (l : Links) : List NodeId :=
  [l.parent, l.firstChild, l.lastChild, l.prevSibling, l.nextSibling].filterMap id

namespace Tree

-- These are the children of `p`, from the first to the last: the links between them run through
-- the whole row both ways, and they are the nodes that have `p` as their parent.
structure Row (t : Tree) (p : NodeId) (ns : List NodeId) : Prop where
  forward : Visits t.nextSibling (t.firstChild p) ns
  backward : Visits t.prevSibling (t.lastChild p) ns.reverse
  distinct : ns.Nodup
  members : ∀ n, n ∈ ns ↔ t.parent n = some p

-- No link leads out of the arena, the children of each node form a row, roots have no siblings,
-- and from each node the parents lead up to a root.
structure WellFormed (t : Tree) : Prop where
  room : t.size ≤ NodeId.absent.index
  inside : ∀ n, ∀ m ∈ (t.links n).targets, t.has m
  rows : ∀ p, ∃ ns, t.Row p ns
  alone : ∀ n, t.parent n = none → t.prevSibling n = none ∧ t.nextSibling n = none
  rooted : ∀ n, ∃ ns, Visits t.parent (t.parent n) ns

-- The step to the next sibling leads from `left`, taken once or more, to `right`.
def SiblingBefore (t : Tree) (left right : NodeId) : Prop :=
  Relation.TransGen (fun a b => t.nextSibling a = some b) left right

theorem has_iff (t : Tree) (n : NodeId) (room : t.size ≤ NodeId.absent.index) :
    t.has n ↔ n.index < t.size := by
  simp only [has, NodeId.isValid, ne_eq, Bool.and_eq_true, decide_eq_true_eq]
  refine ⟨And.right, fun bound => ⟨fun same => ?_, bound⟩⟩
  rw [same] at bound
  exact Nat.not_le_of_gt bound room

theorem links_outside (t : Tree) (n : NodeId) (outside : t.size ≤ n.index) : t.links n = {} := by
  have missing : t.node? n = none := Array.getElem?_eq_none outside
  simp [links, missing]

theorem parent_inside (t : Tree) (n p : NodeId) (parent : t.parent n = some p) :
    n.index < t.size := by
  refine Nat.lt_of_not_le fun outside => ?_
  rw [Tree.parent, links_outside t n outside] at parent
  cases parent

theorem length_le_bound (bound : Nat) (ns : List NodeId) (distinct : ns.Nodup)
    (below : ∀ n ∈ ns, n.index < bound) : ns.length ≤ bound := by
  have indexes : (ns.map NodeId.index).Nodup := distinct.map NodeId.index_injective
  have inside : ns.map NodeId.index ⊆ List.range bound := by
    intro i found
    obtain ⟨n, member, same⟩ := List.mem_map.mp found
    rw [← same]
    exact List.mem_range.mpr (below n member)
  simpa using (indexes.subperm inside).length_le

theorem length_le_size (t : Tree) (ns : List NodeId) (distinct : ns.Nodup)
    (known : ∀ n ∈ ns, n.index < t.size) : ns.length ≤ t.size :=
  length_le_bound t.size ns distinct known

theorem row_length (t : Tree) (p : NodeId) (ns : List NodeId) (row : t.Row p ns) :
    ns.length ≤ t.size :=
  length_le_size t ns row.distinct fun n member => parent_inside t n p ((row.members n).mp member)

theorem children_of_row (t : Tree) (p : NodeId) (ns : List NodeId) (row : t.Row p ns) :
    t.children p = ns :=
  follow_visits t.nextSibling t.size (t.firstChild p) ns row.forward (row_length t p ns row)

namespace WellFormed

variable {t : Tree} (formed : t.WellFormed)

include formed

theorem has_parent (n p : NodeId) (parent : t.parent n = some p) : t.has p :=
  formed.inside n p (by simp [Links.targets, show (t.links n).parent = some p from parent])

theorem index_of_has (n : NodeId) (known : t.has n) : n.index < t.size :=
  (has_iff t n formed.room).mp known

theorem has_child (n p : NodeId) (parent : t.parent n = some p) : t.has n :=
  (has_iff t n formed.room).mpr (parent_inside t n p parent)

theorem row_children (p : NodeId) : t.Row p (t.children p) := by
  obtain ⟨ns, row⟩ := formed.rows p
  rw [children_of_row t p ns row]
  exact row

theorem mem_children (p n : NodeId) : n ∈ t.children p ↔ t.parent n = some p :=
  (formed.row_children p).members n

theorem ancestors_of_visits (n : NodeId) (ns : List NodeId) (up : Visits t.parent (t.parent n) ns) :
    t.ancestors n = ns := by
  refine follow_visits t.parent t.size (t.parent n) ns up ?_
  refine length_le_size t ns (visits_nodup t.parent _ ns up) fun a member => ?_
  obtain ⟨b, _, last⟩ := Relation.TransGen.tail'_iff.mp
    ((visits_reached t.parent n a ns up).mp member)
  exact formed.index_of_has a (formed.has_parent b a last)

theorem visits_ancestors (n : NodeId) : Visits t.parent (t.parent n) (t.ancestors n) := by
  obtain ⟨ns, up⟩ := formed.rooted n
  rw [formed.ancestors_of_visits n ns up]
  exact up

theorem ancestors_root (n : NodeId) (root : t.parent n = none) : t.ancestors n = [] :=
  formed.ancestors_of_visits n [] root

theorem ancestors_child (n p : NodeId) (parent : t.parent n = some p) :
    t.ancestors n = p :: t.ancestors p :=
  formed.ancestors_of_visits n (p :: t.ancestors p) ⟨parent, formed.visits_ancestors p⟩

theorem mem_ancestors (a n : NodeId) :
    a ∈ t.ancestors n ↔ Relation.TransGen (fun b c => t.parent b = some c) n a :=
  visits_reached t.parent n a (t.ancestors n) (formed.visits_ancestors n)

theorem not_own_ancestor (n : NodeId) : n ∉ t.ancestors n :=
  visits_irreflexive t.parent n (t.ancestors n) (formed.visits_ancestors n)

theorem ancestors_trans (a b n : NodeId) (upper : a ∈ t.ancestors b) (lower : b ∈ t.ancestors n) :
    a ∈ t.ancestors n := by
  rw [formed.mem_ancestors] at upper lower ⊢
  exact lower.trans upper

theorem mem_ancestors_child (a n p : NodeId) (parent : t.parent n = some p) :
    a ∈ t.ancestors n ↔ a = p ∨ a ∈ t.ancestors p := by
  rw [formed.ancestors_child n p parent, List.mem_cons]

theorem ancestors_nodup (n : NodeId) : (t.ancestors n).Nodup :=
  visits_nodup t.parent (t.parent n) (t.ancestors n) (formed.visits_ancestors n)

theorem has_ancestor (a n : NodeId) (above : a ∈ t.ancestors n) : t.has a := by
  obtain ⟨b, _, last⟩ := Relation.TransGen.tail'_iff.mp ((formed.mem_ancestors a n).mp above)
  exact formed.has_parent b a last

theorem has_below (a n : NodeId) (above : a ∈ t.ancestors n) : t.has n := by
  obtain ⟨p, parent, _⟩ := Relation.TransGen.head'_iff.mp ((formed.mem_ancestors a n).mp above)
  exact formed.has_child n p parent

theorem ancestors_length (n : NodeId) : (t.ancestors n).length ≤ t.size :=
  length_le_size t _ (formed.ancestors_nodup n) fun a above =>
    formed.index_of_has a (formed.has_ancestor a n above)

theorem contains_iff (a n : NodeId) : t.contains a n ↔ a ∈ t.ancestors n := by
  simp only [contains, Bool.and_eq_true, decide_eq_true_eq, List.contains_iff_mem]
  refine ⟨And.right, fun above => ⟨fun same => ?_, above⟩⟩
  rw [same] at above
  exact formed.not_own_ancestor n above

-- From the parents to the children: what holds of a node as soon as it holds of its parent.
theorem induction_up {motive : NodeId → Prop}
    (step : ∀ n, (∀ p, t.parent n = some p → motive p) → motive n) (n : NodeId) : motive n := by
  have along : ∀ ns n, Visits t.parent (t.parent n) ns → motive n := by
    intro ns
    induction ns with
    | nil =>
        intro n root
        exact step n fun p parent => by cases (show t.parent n = none from root).symm.trans parent
    | cons q ns ih =>
        intro n up
        refine step n fun p parent => ih p ?_
        have same : q = p := Option.some.inj (up.1.symm.trans parent)
        rw [← same]
        exact up.2
  exact along (t.ancestors n) n (formed.visits_ancestors n)

-- From the children to the parents; the number of ancestors grows downwards and is bounded.
theorem induction_down {motive : NodeId → Prop}
    (step : ∀ n, (∀ c ∈ t.children n, motive c) → motive n) (n : NodeId) : motive n := by
  generalize measure : t.size - (t.ancestors n).length = height
  induction height using Nat.strongRecOn generalizing n with
  | ind height ih =>
      refine step n fun c member => ?_
      have longer := congrArg List.length
        (formed.ancestors_child c n ((formed.mem_children n c).mp member))
      have bound := formed.ancestors_length c
      rw [List.length_cons] at longer
      exact ih (t.size - (t.ancestors c).length) (by omega) c rfl

theorem following_of_split (p n : NodeId) (front back : List NodeId)
    (split : t.children p = front ++ n :: back) : t.followingSiblings n = back := by
  have row := formed.row_children p
  have bound := row_length t p _ row
  rw [split] at row bound
  refine follow_visits t.nextSibling t.size (t.nextSibling n) back
    (visits_behind t.nextSibling _ front back n row.forward) ?_
  simp only [List.length_append, List.length_cons] at bound
  omega

theorem preceding_of_split (p n : NodeId) (front back : List NodeId)
    (split : t.children p = front ++ n :: back) : t.precedingSiblings n = front.reverse := by
  have row := formed.row_children p
  have bound := row_length t p _ row
  rw [split] at row bound
  have turned : Visits t.prevSibling (t.lastChild p) (back.reverse ++ n :: front.reverse) := by
    simpa using row.backward
  refine follow_visits t.prevSibling t.size (t.prevSibling n) front.reverse
    (visits_behind t.prevSibling _ back.reverse front.reverse n turned) ?_
  simp only [List.length_append, List.length_cons, List.length_reverse] at bound ⊢
  omega

theorem next_of_split (p n : NodeId) (front back : List NodeId)
    (split : t.children p = front ++ n :: back) : t.nextSibling n = back.head? := by
  have row := formed.row_children p
  rw [split] at row
  exact visits_step t.nextSibling _ front back n row.forward

theorem prev_of_split (p n : NodeId) (front back : List NodeId)
    (split : t.children p = front ++ n :: back) : t.prevSibling n = front.getLast? := by
  have row := formed.row_children p
  rw [split] at row
  have turned : Visits t.prevSibling (t.lastChild p) (back.reverse ++ n :: front.reverse) := by
    simpa using row.backward
  rw [visits_step t.prevSibling _ back.reverse front.reverse n turned, List.head?_reverse]

theorem split_at_child (p n : NodeId) (parent : t.parent n = some p) :
    ∃ front back, t.children p = front ++ n :: back ∧
      t.precedingSiblings n = front.reverse ∧ t.followingSiblings n = back := by
  obtain ⟨front, back, split⟩ := List.append_of_mem ((formed.mem_children p n).mpr parent)
  exact ⟨front, back, split, formed.preceding_of_split p n front back split,
    formed.following_of_split p n front back split⟩

theorem row_of_neighbour (n m : NodeId)
    (beside : t.prevSibling n = some m ∨ t.nextSibling n = some m) :
    ∃ p front back, t.parent n = some p ∧ t.children p = front ++ n :: back := by
  cases parent : t.parent n with
  | none => simp [formed.alone n parent] at beside
  | some p =>
      obtain ⟨front, back, split⟩ := List.append_of_mem ((formed.mem_children p n).mpr parent)
      exact ⟨p, front, back, rfl, split⟩

theorem parent_of_neighbour (n m : NodeId)
    (beside : t.prevSibling n = some m ∨ t.nextSibling n = some m) : t.parent m = t.parent n := by
  obtain ⟨p, front, back, parent, split⟩ := formed.row_of_neighbour n m beside
  rw [formed.prev_of_split p n front back split, formed.next_of_split p n front back split] at beside
  rw [parent, ← formed.mem_children, split]
  rcases beside with last | first
  · exact List.mem_append_left _ (List.mem_of_getLast? last)
  · exact List.mem_append_right _ (List.mem_cons_of_mem n (List.mem_of_head? first))

theorem following_root (n : NodeId) (root : t.parent n = none) : t.followingSiblings n = [] :=
  follow_visits t.nextSibling t.size _ [] (formed.alone n root).2 (Nat.zero_le _)

theorem preceding_root (n : NodeId) (root : t.parent n = none) : t.precedingSiblings n = [] :=
  follow_visits t.prevSibling t.size _ [] (formed.alone n root).1 (Nat.zero_le _)

theorem visits_following (n : NodeId) :
    Visits t.nextSibling (t.nextSibling n) (t.followingSiblings n) := by
  cases parent : t.parent n with
  | none =>
      rw [formed.following_root n parent]
      exact (formed.alone n parent).2
  | some p =>
      obtain ⟨front, back, split, _, following⟩ := formed.split_at_child p n parent
      have row := formed.row_children p
      rw [split] at row
      rw [following]
      exact visits_behind t.nextSibling _ front back n row.forward

theorem visits_preceding (n : NodeId) :
    Visits t.prevSibling (t.prevSibling n) (t.precedingSiblings n) := by
  cases parent : t.parent n with
  | none =>
      rw [formed.preceding_root n parent]
      exact (formed.alone n parent).1
  | some p =>
      obtain ⟨front, back, split, preceding, _⟩ := formed.split_at_child p n parent
      have row := formed.row_children p
      rw [split] at row
      rw [preceding]
      exact visits_behind t.prevSibling _ back.reverse front.reverse n (by simpa using row.backward)

theorem mem_following (left right : NodeId) :
    right ∈ t.followingSiblings left ↔ t.SiblingBefore left right :=
  visits_reached t.nextSibling left right _ (formed.visits_following left)

theorem parent_of_following (left right : NodeId) (found : right ∈ t.followingSiblings left) :
    ∃ p, t.parent left = some p ∧ t.parent right = some p := by
  cases parent : t.parent left with
  | none => simp [formed.following_root left parent] at found
  | some p =>
      obtain ⟨front, back, split, _, following⟩ := formed.split_at_child p left parent
      rw [following] at found
      exact ⟨p, rfl, (formed.mem_children p right).mp (by simp [split, found])⟩

theorem mem_preceding (left right : NodeId) :
    left ∈ t.precedingSiblings right ↔ t.SiblingBefore left right := by
  rw [← formed.mem_following]
  constructor
  · intro found
    cases parent : t.parent right with
    | none => simp [formed.preceding_root right parent] at found
    | some p =>
        obtain ⟨front, back, split, preceding, _⟩ := formed.split_at_child p right parent
        rw [preceding, List.mem_reverse] at found
        obtain ⟨outer, inner, again⟩ := List.append_of_mem found
        rw [formed.following_of_split p left outer (inner ++ right :: back) (by simp [split, again])]
        simp
  · intro found
    obtain ⟨p, parent, _⟩ := formed.parent_of_following left right found
    obtain ⟨front, back, split, _, following⟩ := formed.split_at_child p left parent
    rw [following] at found
    obtain ⟨inner, outer, again⟩ := List.append_of_mem found
    rw [formed.preceding_of_split p right (front ++ left :: inner) outer (by simp [split, again])]
    simp

theorem has_following (n m : NodeId) (found : m ∈ t.followingSiblings n) : t.has m := by
  obtain ⟨p, _, parent⟩ := formed.parent_of_following n m found
  exact formed.has_child m p parent

theorem has_preceding (n m : NodeId) (found : m ∈ t.precedingSiblings n) : t.has m := by
  obtain ⟨p, parent, _⟩ := formed.parent_of_following m n
    ((formed.mem_following m n).mpr ((formed.mem_preceding m n).mp found))
  exact formed.has_child m p parent

theorem has_element_child (p n : NodeId) (found : n ∈ t.elementChildren p) : t.has n :=
  formed.has_child n p ((formed.mem_children p n).mp (List.mem_filter.mp found).1)

theorem following_of_preceding (left right : NodeId) (nearer farther : List NodeId)
    (split : t.precedingSiblings right = nearer ++ left :: farther) :
    ∃ back, t.followingSiblings left = nearer.reverse ++ right :: back ∧
      (farther.reverse ++ left :: (nearer.reverse ++ right :: back)).Nodup := by
  cases parent : t.parent right with
  | none => simp [formed.preceding_root right parent] at split
  | some p =>
      obtain ⟨front, back, row, preceding, _⟩ := formed.split_at_child p right parent
      have turned : front = farther.reverse ++ left :: nearer.reverse := by
        rw [← List.reverse_reverse front, ← preceding, split]
        simp
      have whole : t.children p = farther.reverse ++ left :: (nearer.reverse ++ right :: back) := by
        simp [row, turned]
      refine ⟨back, formed.following_of_split p left _ _ whole, ?_⟩
      rw [← whole]
      exact (formed.row_children p).distinct

theorem preceding_of_following (left right : NodeId) (nearer farther : List NodeId)
    (split : t.followingSiblings left = nearer ++ right :: farther) :
    ∃ front, t.precedingSiblings right = nearer.reverse ++ left :: front := by
  cases parent : t.parent left with
  | none => simp [formed.following_root left parent] at split
  | some p =>
      obtain ⟨front, back, row, _, following⟩ := formed.split_at_child p left parent
      have whole : t.children p = (front ++ left :: nearer) ++ right :: farther := by
        rw [row, ← following, split, List.append_assoc, List.cons_append]
      exact ⟨front.reverse, by simp [formed.preceding_of_split p right _ _ whole]⟩

theorem between_iff (left right m : NodeId) (nearer farther : List NodeId)
    (split : t.precedingSiblings right = nearer ++ left :: farther) :
    m ∈ nearer ↔ t.SiblingBefore left m ∧ t.SiblingBefore m right := by
  obtain ⟨back, following, distinct⟩ :=
    formed.following_of_preceding left right nearer farther split
  rw [← formed.mem_following, ← formed.mem_preceding, following, split]
  simp only [List.nodup_append, List.nodup_cons, List.mem_append, List.mem_reverse,
    List.mem_cons] at distinct ⊢
  grind

omit formed in
theorem ancestors_of_sibling (a b : NodeId) (same : t.parent a = t.parent b) :
    t.ancestors a = t.ancestors b := by
  rw [ancestors, ancestors, same]

theorem siblings_apart (a b n : NodeId) (same : t.parent a = t.parent b)
    (aboveA : a ∈ t.ancestors n) (aboveB : b ∈ t.ancestors n) : a = b := by
  induction n using formed.induction_up with
  | step n ih =>
      cases parent : t.parent n with
      | none => simp [formed.ancestors_root n parent] at aboveA
      | some p =>
          rw [formed.mem_ancestors_child _ n p parent] at aboveA aboveB
          rcases aboveA with nearA | farA
          · rcases aboveB with nearB | farB
            · rw [nearA, nearB]
            · rw [← nearA, ancestors_of_sibling a b same] at farB
              exact absurd farB (formed.not_own_ancestor b)
          · rcases aboveB with nearB | farB
            · rw [← nearB, ← ancestors_of_sibling a b same] at farA
              exact absurd farA (formed.not_own_ancestor a)
            · exact ih p parent farA farB

end WellFormed

end Tree

end DomQuery
