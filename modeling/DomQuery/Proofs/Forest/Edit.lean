import DomQuery.Proofs.Forest.Basic
import DomQuery.Tree.Edit

set_option autoImplicit false

namespace DomQuery

theorem Links.mem_targets (l : Links) (n : NodeId) :
    n ∈ l.targets ↔ l.parent = some n ∨ l.firstChild = some n ∨ l.lastChild = some n ∨
      l.prevSibling = some n ∨ l.nextSibling = some n := by
  simp [Links.targets, List.mem_filterMap, eq_comm]

namespace Tree

theorem ext_nodes (t u : Tree) (same : ∀ i : Nat, t.nodes[i]? = u.nodes[i]?) : t = u := by
  cases t
  cases u
  exact congrArg Tree.mk (Array.ext_getElem? same)

theorem nodes_modify (t : Tree) (n : NodeId) (f : Node → Node) (i : Nat) :
    (t.modify n f).nodes[i]? = if n.index = i then t.nodes[i]?.map f else t.nodes[i]? :=
  Array.getElem?_modify

theorem modify_congr (t : Tree) (n : NodeId) (f g : Node → Node)
    (agree : ∀ node, t.node? n = some node → f node = g node) : t.modify n f = t.modify n g := by
  refine ext_nodes _ _ fun i => ?_
  rw [nodes_modify, nodes_modify]
  by_cases here : n.index = i
  · subst here
    rw [if_pos rfl, if_pos rfl]
    exact Option.map_congr agree
  · rw [if_neg here, if_neg here]

theorem modify_id (t : Tree) (n : NodeId) : t.modify n id = t := by
  refine ext_nodes _ _ fun i => ?_
  rw [nodes_modify, Option.map_id, id, ite_self]

theorem links_modify (t : Tree) (n m : NodeId) (f : Links → Links) (known : n.index < t.size) :
    (t.modifyLinks n f).links m = if m = n then f (t.links m) else t.links m := by
  by_cases same : m = n
  · subst same
    have bound : m.index < t.nodes.size := known
    have found : t.node? m = some t.nodes[m.index] := Array.getElem?_eq_getElem bound
    simp [links, modifyLinks, node_modify, found]
  · simp [links, modifyLinks, node_modify, same]

theorem size_modify_links (t : Tree) (n : NodeId) (f : Links → Links) :
    (t.modifyLinks n f).size = t.size :=
  size_modify t n _

-- Nothing changes outside the arena, so no bound is needed to say what may change.
theorem links_modify_or (t : Tree) (n m : NodeId) (f : Links → Links) :
    (t.modifyLinks n f).links m = t.links m ∨
      m = n ∧ (t.modifyLinks n f).links m = f (t.links m) := by
  by_cases inside : n.index < t.size
  · rw [links_modify t n m f inside]
    by_cases here : m = n
    · exact Or.inr ⟨here, if_pos here⟩
    · exact Or.inl (if_neg here)
  · refine Or.inl ?_
    by_cases here : m = n
    · have outside : t.size ≤ m.index := here ▸ Nat.le_of_not_lt inside
      rw [links_outside t m outside, links_outside _ m (by rwa [size_modify_links])]
    · rw [links, modifyLinks, node_modify, if_neg here, links]

theorem links_push (t : Tree) (p : Payload) (n : NodeId) : (t.push p).links n = t.links n := by
  rcases Nat.lt_trichotomy n.index t.nodes.size with old | fresh | beyond
  · simp [links, node?, push, Array.getElem?_push_lt, old]
  · simp [links, node?, push, fresh]
  · rw [links_outside t n (Nat.le_of_lt beyond),
      links_outside (t.push p) n (by rw [size_push]; exact beyond)]

theorem size_bridge (t : Tree) (beside parent : Option NodeId) (link cap : Links → Links) :
    (t.bridge beside parent link cap).size = t.size := by
  cases beside with
  | some n => exact size_modify_links t n link
  | none =>
      cases parent with
      | some n => exact size_modify_links t n cap
      | none => rfl

theorem links_bridge (t : Tree) (beside parent : Option NodeId) (link cap : Links → Links)
    (m : NodeId) (knownBeside : ∀ n, beside = some n → n.index < t.size)
    (knownParent : ∀ n, parent = some n → n.index < t.size) :
    (t.bridge beside parent link cap).links m =
      if beside = some m then link (t.links m)
      else if beside = none ∧ parent = some m then cap (t.links m)
      else t.links m := by
  cases beside with
  | some n =>
      simp only [bridge, links_modify t n m link (knownBeside n rfl), Option.some.injEq,
        reduceCtorEq, false_and, if_false, eq_comm]
  | none =>
      cases parent with
      | some n =>
          simp only [bridge, links_modify t n m cap (knownParent n rfl), Option.some.injEq,
            reduceCtorEq, true_and, if_false, eq_comm]
      | none => simp only [bridge, reduceCtorEq, and_false, if_false]

theorem size_detach (t : Tree) (n : NodeId) : (t.detach n).size = t.size := by
  unfold detach
  split
  · rw [size_modify_links, unlink, size_bridge, size_bridge]
  · rfl

theorem size_link_last (t : Tree) (parent child : NodeId) :
    (t.linkLast parent child).size = t.size := by
  unfold linkLast
  cases t.lastChild parent <;> simp only [size_modify_links]

theorem payload_modify_links (t : Tree) (n m : NodeId) (f : Links → Links) :
    (t.modifyLinks n f).payload? m = t.payload? m := by
  rw [modifyLinks, payload?, node_modify, payload?]
  by_cases here : m = n
  · simp only [if_pos here, Option.map_map, Function.comp_def]
  · rw [if_neg here]

theorem payload_bridge (t : Tree) (beside parent : Option NodeId) (link cap : Links → Links)
    (m : NodeId) : (t.bridge beside parent link cap).payload? m = t.payload? m := by
  cases beside with
  | some n => exact payload_modify_links t n m link
  | none =>
      cases parent with
      | some n => exact payload_modify_links t n m cap
      | none => rfl

theorem payload_detach (t : Tree) (n m : NodeId) : (t.detach n).payload? m = t.payload? m := by
  by_cases known : t.has n
  · rw [detach, if_pos known, payload_modify_links, unlink, payload_bridge, payload_bridge]
  · rw [detach, if_neg known]

theorem payload_link_last (t : Tree) (parent child m : NodeId) :
    (t.linkLast parent child).payload? m = t.payload? m := by
  unfold linkLast
  cases t.lastChild parent <;> simp only [payload_modify_links]

theorem links_link_last (t : Tree) (parent child m : NodeId) (knownParent : parent.index < t.size)
    (knownChild : child.index < t.size)
    (knownLast : ∀ k, t.lastChild parent = some k → k.index < t.size) :
    (t.linkLast parent child).links m =
      { parent := if m = child then some parent else t.parent m
        firstChild := if t.lastChild parent = none ∧ m = parent then some child else t.firstChild m
        lastChild := if m = parent then some child else t.lastChild m
        prevSibling := if m = child then t.lastChild parent else t.prevSibling m
        nextSibling := if t.lastChild parent = some m then some child
          else if m = child then none else t.nextSibling m } := by
  unfold linkLast
  cases last : t.lastChild parent with
  | none =>
      simp only [links_modify, size_modify_links, knownParent, knownChild]
      by_cases isChild : m = child <;> by_cases isParent : m = parent <;>
        simp_all [Tree.parent, firstChild, lastChild, prevSibling, nextSibling]
  | some k =>
      have knownHere := knownLast k last
      clear last knownLast
      simp only [links_modify, size_modify_links, knownParent, knownChild, knownHere]
      by_cases isChild : m = child <;> by_cases isParent : m = parent <;>
        by_cases isLast : k = m <;>
        simp_all [Tree.parent, firstChild, lastChild, prevSibling, nextSibling, Ne.symm]

namespace WellFormed

variable {t : Tree} (formed : t.WellFormed)

include formed

theorem index_of_target (n m : NodeId) (target : m ∈ (t.links n).targets) : m.index < t.size :=
  formed.index_of_has m (formed.inside n m target)

theorem links_unlink (n m : NodeId) :
    (t.unlink n).links m =
      { parent := t.parent m
        firstChild := if t.prevSibling n = none ∧ t.parent n = some m then t.nextSibling n
          else t.firstChild m
        lastChild := if t.nextSibling n = none ∧ t.parent n = some m then t.prevSibling n
          else t.lastChild m
        prevSibling := if t.nextSibling n = some m then t.prevSibling n else t.prevSibling m
        nextSibling := if t.prevSibling n = some m then t.nextSibling n else t.nextSibling m } := by
  have targets := formed.index_of_target n
  simp only [Links.mem_targets] at targets
  have forward : (t.bridge (t.prevSibling n) (t.parent n)
      (fun l => { l with nextSibling := t.nextSibling n })
      (fun l => { l with firstChild := t.nextSibling n })).links m =
      { t.links m with
        firstChild := if t.prevSibling n = none ∧ t.parent n = some m then t.nextSibling n
          else t.firstChild m
        nextSibling := if t.prevSibling n = some m then t.nextSibling n else t.nextSibling m } := by
    rw [links_bridge t _ _ _ _ m (fun k prev => targets k (by simp [← prev, prevSibling]))
      (fun k parent => targets k (by simp [← parent, Tree.parent]))]
    split_ifs <;> simp_all [firstChild, nextSibling]
  unfold unlink
  rw [links_bridge _ _ _ _ _ m
    (fun k next => by rw [size_bridge]; exact targets k (by simp [← next, nextSibling]))
    (fun k parent => by rw [size_bridge]; exact targets k (by simp [← parent, Tree.parent])), forward]
  split_ifs <;> simp_all [Tree.parent, lastChild, prevSibling]

theorem links_detach (n m : NodeId) (known : t.has n) :
    (t.detach n).links m =
      { parent := if m = n then none else t.parent m
        firstChild := if t.prevSibling n = none ∧ t.parent n = some m then t.nextSibling n
          else t.firstChild m
        lastChild := if t.nextSibling n = none ∧ t.parent n = some m then t.prevSibling n
          else t.lastChild m
        prevSibling := if m = n then none
          else if t.nextSibling n = some m then t.prevSibling n else t.prevSibling m
        nextSibling := if m = n then none
          else if t.prevSibling n = some m then t.nextSibling n else t.nextSibling m } := by
  have within : n.index < (t.unlink n).size := by
    rw [unlink, size_bridge, size_bridge]
    exact formed.index_of_has n known
  rw [detach, if_pos known, links_modify (t.unlink n) n m _ within, formed.links_unlink]
  by_cases here : m = n
  · simp only [here, if_true]
  · simp only [here, if_false]

theorem parent_detach (n m : NodeId) (known : t.has n) :
    (t.detach n).parent m = if m = n then none else t.parent m :=
  congrArg Links.parent (formed.links_detach n m known)

theorem first_child_detach (n p : NodeId) (known : t.has n) :
    (t.detach n).firstChild p =
      if t.prevSibling n = none ∧ t.parent n = some p then t.nextSibling n else t.firstChild p :=
  congrArg Links.firstChild (formed.links_detach n p known)

theorem last_child_detach (n p : NodeId) (known : t.has n) :
    (t.detach n).lastChild p =
      if t.nextSibling n = none ∧ t.parent n = some p then t.prevSibling n else t.lastChild p :=
  congrArg Links.lastChild (formed.links_detach n p known)

theorem prev_detach (n m : NodeId) (known : t.has n) (other : m ≠ n) :
    (t.detach n).prevSibling m =
      if t.nextSibling n = some m then t.prevSibling n else t.prevSibling m := by
  refine (congrArg Links.prevSibling (formed.links_detach n m known)).trans ?_
  exact if_neg other

theorem next_detach (n m : NodeId) (known : t.has n) (other : m ≠ n) :
    (t.detach n).nextSibling m =
      if t.prevSibling n = some m then t.nextSibling n else t.nextSibling m := by
  refine (congrArg Links.nextSibling (formed.links_detach n m known)).trans ?_
  exact if_neg other

theorem row_detach_own (n p : NodeId) (known : t.has n) (parent : t.parent n = some p) :
    (t.detach n).Row p ((t.children p).erase n) := by
  obtain ⟨front, back, split⟩ := List.append_of_mem ((formed.mem_children p n).mpr parent)
  have row := formed.row_children p
  rw [split] at row ⊢
  have prev := formed.prev_of_split p n front back split
  have next := formed.next_of_split p n front back split
  obtain ⟨outFront, outBack⟩ : n ∉ front ∧ n ∉ back := by
    have distinct := row.distinct
    simp only [List.nodup_append, List.nodup_cons, List.mem_cons] at distinct
    exact ⟨fun found => distinct.2.2 n found n (Or.inl rfl) rfl, distinct.2.1.1⟩
  have shorter : (front ++ n :: back).erase n = front ++ back := by
    rw [List.erase_append_right _ outFront, List.erase_cons_head]
  have others : ∀ m ∈ front ++ back, m ≠ n := by
    intro m found same
    rw [same] at found
    exact (List.mem_append.mp found).elim outFront outBack
  rw [shorter]
  have forward := visits_skip t.nextSibling (t.detach n).nextSibling (t.firstChild p) front back n
    row.forward fun m found => by
      rw [formed.next_detach n m known (others m found), prev]
  have backward := visits_skip t.prevSibling (t.detach n).prevSibling (t.lastChild p)
    back.reverse front.reverse n (by simpa using row.backward) fun m found => by
      rw [formed.prev_detach n m known (others m (by simp at found ⊢; tauto)), next,
        List.getLast?_reverse]
  have distinct : (front ++ back).Nodup := visits_nodup (t.detach n).nextSibling _ _ forward
  refine ⟨?_, ?_, distinct, fun m => ?_⟩
  · rw [formed.first_child_detach n p known, prev, parent]
    simpa using forward
  · rw [formed.last_child_detach n p known, next, parent]
    simpa using backward
  · rw [formed.parent_detach n m known]
    by_cases same : m = n
    · simp [same, outFront, outBack]
    · rw [if_neg same, ← row.members m]
      simp [same]

theorem row_detach_other (n p : NodeId) (known : t.has n) (elsewhere : t.parent n ≠ some p) :
    (t.detach n).Row p (t.children p) := by
  have row := formed.row_children p
  -- A neighbour of `n` is in the same row as `n`, so this row is not touched.
  have others : ∀ m ∈ t.children p,
      m ≠ n ∧ t.prevSibling n ≠ some m ∧ t.nextSibling n ≠ some m := by
    intro m found
    have parent := (formed.mem_children p m).mp found
    refine ⟨fun same => elsewhere (same ▸ parent), fun prev => ?_, fun next => ?_⟩
    · exact elsewhere ((formed.parent_of_neighbour n m (Or.inl prev)).symm.trans parent)
    · exact elsewhere ((formed.parent_of_neighbour n m (Or.inr next)).symm.trans parent)
  refine ⟨?_, ?_, row.distinct, fun m => ?_⟩
  · rw [formed.first_child_detach n p known, if_neg fun both => elsewhere both.2]
    refine segment_congr _ _ _ none _ (fun m found => ?_) row.forward
    obtain ⟨other, prev, _⟩ := others m found
    rw [formed.next_detach n m known other, if_neg prev]
  · rw [formed.last_child_detach n p known, if_neg fun both => elsewhere both.2]
    refine segment_congr _ _ _ none _ (fun m found => ?_) row.backward
    obtain ⟨other, _, next⟩ := others m (List.mem_reverse.mp found)
    rw [formed.prev_detach n m known other, if_neg next]
  · rw [formed.parent_detach n m known, row.members]
    by_cases same : m = n
    · simp [same, elsewhere]
    · simp [same]

theorem not_child_of_root (n p : NodeId) (root : t.parent n = none) : n ∉ t.children p := by
  rw [formed.mem_children, root]
  exact nofun

theorem children_detach (n p : NodeId) (known : t.has n) :
    (t.detach n).Row p ((t.children p).erase n) := by
  by_cases own : t.parent n = some p
  · exact formed.row_detach_own n p known own
  · rw [List.erase_of_not_mem fun found => own ((formed.mem_children p n).mp found)]
    exact formed.row_detach_other n p known own

theorem well_formed_detach (n : NodeId) : (t.detach n).WellFormed := by
  by_cases known : t.has n
  case neg =>
    rw [detach, if_neg known]
    exact formed
  case pos =>
    refine ⟨?_, ?_, fun p => ⟨_, formed.children_detach n p known⟩, ?_, ?_⟩
    · rw [size_detach]
      exact formed.room
    · intro m k target
      have old : k ∈ (t.links m).targets ∨ k ∈ (t.links n).targets := by
        simp only [Links.mem_targets, formed.links_detach n m known] at target ⊢
        simp only [parent, firstChild, lastChild, prevSibling, nextSibling] at target
        grind
      have inside := old.elim (formed.inside m k) (formed.inside n k)
      rw [has, size_detach]
      exact inside
    · intro m root
      by_cases same : m = n
      · rw [same]
        simp [prevSibling, nextSibling, formed.links_detach n n known]
      · rw [formed.parent_detach n m known, if_neg same] at root
        rw [formed.prev_detach n m known same, formed.next_detach n m known same]
        have apart : ¬ (t.prevSibling n = some m ∨ t.nextSibling n = some m) := by
          intro beside
          have rootToo := (formed.parent_of_neighbour n m beside).symm.trans root
          simp [formed.alone n rootToo] at beside
        rw [if_neg fun next => apart (Or.inr next), if_neg fun prev => apart (Or.inl prev)]
        exact formed.alone m root
    · refine formed.induction_up fun m ih => ?_
      rw [formed.parent_detach n m known]
      by_cases same : m = n
      · exact ⟨[], by simp [same, Segment]⟩
      · rw [if_neg same]
        cases parent : t.parent m with
        | none => exact ⟨[], rfl⟩
        | some p =>
            obtain ⟨ns, up⟩ := ih p parent
            exact ⟨p :: ns, rfl, up⟩

section LinkLast

variable (parent child : NodeId) (knownParent : t.has parent) (knownChild : t.has child)
  (root : t.parent child = none) (apart : child ≠ parent) (free : child ∉ t.ancestors parent)

include knownParent knownChild

theorem links_link_last (m : NodeId) :
    (t.linkLast parent child).links m =
      { parent := if m = child then some parent else t.parent m
        firstChild := if t.lastChild parent = none ∧ m = parent then some child else t.firstChild m
        lastChild := if m = parent then some child else t.lastChild m
        prevSibling := if m = child then t.lastChild parent else t.prevSibling m
        nextSibling := if t.lastChild parent = some m then some child
          else if m = child then none else t.nextSibling m } := by
  refine Tree.links_link_last t parent child m (formed.index_of_has parent knownParent)
    (formed.index_of_has child knownChild) fun k last => formed.index_of_target parent k ?_
  rw [Links.mem_targets]
  exact Or.inr (Or.inr (Or.inl last))

theorem parent_link_last (m : NodeId) :
    (t.linkLast parent child).parent m = if m = child then some parent else t.parent m :=
  congrArg Links.parent (formed.links_link_last parent child knownParent knownChild m)

theorem next_link_last (m : NodeId) :
    (t.linkLast parent child).nextSibling m =
      if t.lastChild parent = some m then some child
      else if m = child then none else t.nextSibling m :=
  congrArg Links.nextSibling (formed.links_link_last parent child knownParent knownChild m)

theorem prev_link_last (m : NodeId) :
    (t.linkLast parent child).prevSibling m =
      if m = child then t.lastChild parent else t.prevSibling m :=
  congrArg Links.prevSibling (formed.links_link_last parent child knownParent knownChild m)

theorem first_child_link_last (p : NodeId) :
    (t.linkLast parent child).firstChild p =
      if t.lastChild parent = none ∧ p = parent then some child else t.firstChild p :=
  congrArg Links.firstChild (formed.links_link_last parent child knownParent knownChild p)

theorem last_child_link_last (p : NodeId) :
    (t.linkLast parent child).lastChild p = if p = parent then some child else t.lastChild p :=
  congrArg Links.lastChild (formed.links_link_last parent child knownParent knownChild p)

omit knownParent knownChild

theorem last_child_of_row (p : NodeId) : t.lastChild p = (t.children p).getLast? := by
  rw [visits_head _ _ _ (formed.row_children p).backward, List.head?_reverse]

theorem parent_of_last_child (p m : NodeId) (last : t.lastChild p = some m) :
    t.parent m = some p := by
  rw [formed.last_child_of_row] at last
  exact (formed.mem_children p m).mp (List.mem_of_getLast? last)

include knownParent knownChild root

theorem row_link_last_own :
    (t.linkLast parent child).Row parent (t.children parent ++ [child]) := by
  have row := formed.row_children parent
  have fresh := formed.not_child_of_root child parent root
  have last := formed.last_child_of_row parent
  have others : ∀ m ∈ t.children parent, m ≠ child := fun m found same => fresh (same ▸ found)
  have childIsLast : t.lastChild parent ≠ some child := by
    intro same
    rw [formed.parent_of_last_child parent child same] at root
    cases root
  have ends : (t.linkLast parent child).nextSibling child = none := by
    rw [formed.next_link_last parent child knownParent knownChild, if_neg childIsLast, if_pos rfl]
  have forward := visits_extend t.nextSibling (t.linkLast parent child).nextSibling
    (t.firstChild parent) (t.children parent) child row.forward ends fun m found => by
      rw [formed.next_link_last parent child knownParent knownChild, last, if_neg (others m found)]
  refine ⟨?_, ?_, visits_nodup _ _ _ forward, fun m => ?_⟩
  · rw [formed.first_child_link_last parent child knownParent knownChild, last]
    simpa using forward
  · rw [formed.last_child_link_last parent child knownParent knownChild, if_pos rfl,
      List.reverse_append]
    refine ⟨rfl, ?_⟩
    rw [formed.prev_link_last parent child knownParent knownChild, if_pos rfl]
    refine segment_congr _ _ _ none _ (fun m found => ?_) row.backward
    rw [formed.prev_link_last parent child knownParent knownChild,
      if_neg (others m (List.mem_reverse.mp found))]
  · rw [formed.parent_link_last parent child knownParent knownChild, List.mem_append,
      List.mem_singleton, row.members]
    by_cases same : m = child
    · simp [same]
    · simp [same]

theorem row_link_last_other (p : NodeId) (other : p ≠ parent) :
    (t.linkLast parent child).Row p (t.children p) := by
  have row := formed.row_children p
  have fresh := formed.not_child_of_root child p root
  have others : ∀ m ∈ t.children p, m ≠ child := fun m found same => fresh (same ▸ found)
  refine ⟨?_, ?_, row.distinct, fun m => ?_⟩
  · rw [formed.first_child_link_last parent child knownParent knownChild, if_neg fun both => other both.2]
    refine segment_congr _ _ _ none _ (fun m found => ?_) row.forward
    have notLast : t.lastChild parent ≠ some m := by
      intro last
      have above := (formed.mem_children p m).mp found
      exact other (Option.some.inj (above.symm.trans (formed.parent_of_last_child parent m last)))
    rw [formed.next_link_last parent child knownParent knownChild, if_neg notLast,
      if_neg (others m found)]
  · rw [formed.last_child_link_last parent child knownParent knownChild, if_neg other]
    refine segment_congr _ _ _ none _ (fun m found => ?_) row.backward
    rw [formed.prev_link_last parent child knownParent knownChild,
      if_neg (others m (List.mem_reverse.mp found))]
  · rw [formed.parent_link_last parent child knownParent knownChild, row.members]
    by_cases same : m = child
    · simp [same, root, Ne.symm other]
    · simp [same]

include apart free

omit root in
theorem rooted_link_last (m : NodeId) :
    ∃ ns, Visits (t.linkLast parent child).parent ((t.linkLast parent child).parent m) ns := by
  have moved := formed.parent_link_last parent child knownParent knownChild
  -- The way up from the new parent does not meet the child, so it is the old one.
  have above : Visits (t.linkLast parent child).parent (some parent)
      (parent :: t.ancestors parent) := by
    refine ⟨rfl, ?_⟩
    rw [moved, if_neg (Ne.symm apart)]
    refine segment_congr _ _ _ none _ (fun a found => ?_) (formed.visits_ancestors parent)
    have other : a ≠ child := fun same => free (same ▸ found)
    rw [moved, if_neg other]
  revert m
  refine formed.induction_up fun m ih => ?_
  rw [moved]
  by_cases same : m = child
  · rw [if_pos same]
    exact ⟨_, above⟩
  · rw [if_neg same]
    cases up : t.parent m with
    | none => exact ⟨[], rfl⟩
    | some p =>
        obtain ⟨ns, rest⟩ := ih p up
        exact ⟨p :: ns, rfl, rest⟩

theorem well_formed_link_last : (t.linkLast parent child).WellFormed := by
  refine ⟨?_, ?_, fun p => ?_, ?_,
    formed.rooted_link_last parent child knownParent knownChild apart free⟩
  · rw [size_link_last]
    exact formed.room
  · intro m k target
    have old : k = parent ∨ k = child ∨ k ∈ (t.links m).targets ∨ k ∈ (t.links parent).targets := by
      simp only [Links.mem_targets,
        formed.links_link_last parent child knownParent knownChild m] at target ⊢
      simp only [Tree.parent, firstChild, lastChild, prevSibling, nextSibling] at target
      grind
    rw [has, size_link_last]
    rcases old with isParent | isChild | own | parents
    · rw [isParent]
      exact knownParent
    · rw [isChild]
      exact knownChild
    · exact formed.inside m k own
    · exact formed.inside parent k parents
  · by_cases own : p = parent
    · rw [own]
      exact ⟨_, formed.row_link_last_own parent child knownParent knownChild root⟩
    · exact ⟨_, formed.row_link_last_other parent child knownParent knownChild root p own⟩
  · intro m isRoot
    rw [formed.parent_link_last parent child knownParent knownChild] at isRoot
    have other : m ≠ child := fun same => by simp [same] at isRoot
    rw [if_neg other] at isRoot
    have notLast : t.lastChild parent ≠ some m := by
      intro last
      rw [formed.parent_of_last_child parent m last] at isRoot
      cases isRoot
    rw [formed.prev_link_last parent child knownParent knownChild, if_neg other,
      formed.next_link_last parent child knownParent knownChild, if_neg notLast, if_neg other]
    exact formed.alone m isRoot

end LinkLast

theorem ancestors_detach (n a m : NodeId) (above : a ∈ (t.detach n).ancestors m) :
    a ∈ t.ancestors m := by
  by_cases known : t.has n
  case neg =>
    rw [detach, if_neg known] at above
    exact above
  case pos =>
    have edges : ∀ b c, (t.detach n).parent b = some c → t.parent b = some c := by
      intro b c edge
      rw [formed.parent_detach n b known] at edge
      split at edge
      · cases edge
      · exact edge
    rw [(formed.well_formed_detach n).mem_ancestors] at above
    rw [formed.mem_ancestors]
    exact Relation.TransGen.mono edges m a above

theorem well_formed_append_child (parent child : NodeId) :
    (t.appendChild parent child).WellFormed := by
  by_cases allowed : t.canAppend parent child
  case neg =>
    rw [appendChild, if_neg allowed]
    exact formed
  case pos =>
    rw [appendChild, if_pos allowed]
    simp only [canAppend, Bool.and_eq_true, Bool.not_eq_true', decide_eq_true_eq] at allowed
    obtain ⟨⟨⟨knownParent, knownChild⟩, apart⟩, acyclic⟩ := allowed
    have detached := formed.well_formed_detach child
    have root : (t.detach child).parent child = none := by
      rw [formed.parent_detach child child knownChild, if_pos rfl]
    have free : child ∉ (t.detach child).ancestors parent := by
      intro above
      have contained := (formed.contains_iff child parent).mpr
        (formed.ancestors_detach child child parent above)
      rw [contained] at acyclic
      cases acyclic
    refine detached.well_formed_link_last parent child ?_ ?_ root (Ne.symm apart) free
    · rw [has, size_detach]
      exact knownParent
    · rw [has, size_detach]
      exact knownChild

end WellFormed

end Tree

end DomQuery
