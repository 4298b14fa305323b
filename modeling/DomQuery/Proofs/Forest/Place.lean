import DomQuery.Proofs.Forest.Growth
import DomQuery.Proofs.Forest.Rows

set_option autoImplicit false

namespace DomQuery.Tree

theorem node_push (t : Tree) (payload : Payload) (n : NodeId) (old : n.index < t.size) :
    (t.push payload).node? n = t.node? n := by
  have known : n.index < t.nodes.size := old
  rw [node?, push, Array.getElem?_push_lt known, node?, Array.getElem?_eq_getElem known]

theorem node_modify_links (t : Tree) (n m : NodeId) (f : Links → Links) (other : m ≠ n) :
    (t.modifyLinks n f).node? m = t.node? m := by
  rw [modifyLinks, node_modify, if_neg other]

theorem node_link_last (t : Tree) (parent child m : NodeId) (notParent : m ≠ parent)
    (notChild : m ≠ child) (notLast : t.lastChild parent ≠ some m) :
    (t.linkLast parent child).node? m = t.node? m := by
  unfold linkLast
  cases last : t.lastChild parent with
  | none => simp only [node_modify_links, notParent, notChild, ne_eq, not_false_eq_true]
  | some k =>
      have notThis : m ≠ k := fun same => notLast (last.trans (congrArg some same.symm))
      simp only [node_modify_links, notParent, notChild, notThis, ne_eq, not_false_eq_true]

namespace WellFormed

variable {t : Tree} (formed : t.WellFormed)

include formed

theorem children_of_links (u : Tree) (same : ∀ n, u.links n = t.links n) (n : NodeId) :
    u.children n = t.children n :=
  children_of_row u n _ (formed.row_of_links u same n)

theorem children_outside (n : NodeId) (outside : t.size ≤ n.index) : t.children n = [] := by
  refine List.eq_nil_iff_forall_not_mem.mpr fun m member => Nat.not_lt_of_le outside ?_
  exact formed.index_of_has n (formed.has_parent m n ((formed.mem_children n m).mp member))

-- A root has no neighbours, so nobody has to close a gap.
theorem node_detach_root (n m : NodeId) (root : t.parent n = none) (other : m ≠ n) :
    (t.detach n).node? m = t.node? m := by
  obtain ⟨noPrev, noNext⟩ := formed.alone n root
  by_cases known : t.has n
  · rw [detach, if_pos known, node_modify_links _ n m _ other, unlink, root, noPrev, noNext]
    rfl
  · rw [detach, if_neg known]

section Append

variable (parent child : NodeId) (allowed : t.canAppend parent child) (root : t.parent child = none)

include allowed

include root

theorem children_append (p : NodeId) :
    (t.appendChild parent child).children p =
      if p = parent then t.children p ++ [child] else t.children p := by
  have absent := formed.not_child_of_root child p root
  rw [formed.children_move parent child allowed, List.erase_of_not_mem absent]

theorem node_append (m : NodeId) (notParent : m ≠ parent) (notChild : m ≠ child)
    (elsewhere : t.parent m ≠ some parent) :
    (t.appendChild parent child).node? m = t.node? m := by
  have detached := formed.well_formed_detach child
  have known := ((can_append_iff t parent child).mp allowed).2.1
  have notLast : (t.detach child).lastChild parent ≠ some m := by
    intro last
    have above := detached.parent_of_last_child parent m last
    rw [formed.parent_detach child m known, if_neg notChild] at above
    exact elsewhere above
  rw [appendChild, if_pos allowed, node_link_last _ parent child m notParent notChild notLast]
  exact formed.node_detach_root child m root notChild

end Append

end WellFormed

-- `u` is `t` with one more node: it takes the next identity, and `parent` gains it as a child.
structure Placed (t u : Tree) (parent : Option NodeId) (payload : Payload) : Prop where
  formed : u.WellFormed
  size : u.size = t.size + 1
  whole : ∀ m, m.index < t.size → parent ≠ some m → (∀ p, parent = some p → t.parent m ≠ some p) →
    u.node? m = t.node? m
  kept : ∀ m, m.index < t.size → u.payload? m = t.payload? m ∧ u.parent m = t.parent m
  children : ∀ m, m.index < t.size →
    u.children m = if parent = some m then t.children m ++ [t.nextId] else t.children m
  payload : u.payload? t.nextId = some payload
  above : u.parent t.nextId = parent
  bare : u.children t.nextId = []

namespace WellFormed

variable {t : Tree} (formed : t.WellFormed) (payload : Payload)
  (room : t.size < NodeId.absent.index)

include formed room

theorem placed_push : t.Placed (t.push payload) none payload := by
  have links := links_push t payload
  have next := t.index_next room
  have fresh : t.links t.nextId = {} := links_outside t t.nextId (Nat.le_of_eq next.symm)
  constructor
  case formed =>
    refine formed.well_formed_push payload ?_
    rw [size_push]
    exact room
  case size => exact size_push t payload
  case whole => exact fun m old _ _ => node_push t payload m old
  case kept =>
    intro m old
    refine ⟨?_, congrArg Links.parent (links m)⟩
    rw [payload?, node_push t payload m old, payload?]
  case children =>
    intro m _
    rw [if_neg (Option.some_ne_none m).symm]
    exact formed.children_of_links _ links m
  case payload =>
    rw [payload?, node?, next, push, size, Array.getElem?_push_size]
    rfl
  case above => rw [Tree.parent, links, fresh]
  case bare =>
    rw [formed.children_of_links _ links]
    exact formed.children_outside _ (Nat.le_of_eq next.symm)

theorem can_append_next (parent : NodeId) (known : t.has parent) :
    (t.push payload).canAppend parent t.nextId := by
  have next := t.index_next room
  have pushed := formed.placed_push payload room
  have inside := formed.index_of_has parent known
  have apart : parent ≠ t.nextId := by
    intro same
    rw [same, next] at inside
    exact Nat.lt_irrefl _ inside
  have free : ¬(t.push payload).contains t.nextId parent := by
    rw [pushed.formed.contains_iff, pushed.formed.mem_ancestors, Relation.TransGen.tail'_iff]
    rintro ⟨m, _, above⟩
    have child := (pushed.formed.mem_children t.nextId m).mpr above
    rw [pushed.bare] at child
    cases child
  simp only [canAppend, Bool.and_eq_true, decide_eq_true_eq, Bool.not_eq_true']
  refine ⟨⟨⟨?_, ?_⟩, apart⟩, eq_false_of_ne_true free⟩
  · rw [has_iff _ _ pushed.formed.room, size_push]
    exact Nat.lt_succ_of_lt inside
  · rw [has_iff _ _ pushed.formed.room, size_push, next]
    exact Nat.lt_succ_self _

theorem placed_append (parent : NodeId) (known : t.has parent) :
    t.Placed ((t.push payload).appendChild parent t.nextId) (some parent) payload := by
  have next := t.index_next room
  have pushed := formed.placed_push payload room
  have allowed := formed.can_append_next payload room parent known
  have apart : t.nextId ≠ parent := ((can_append_iff _ parent t.nextId).mp allowed).2.2.1.symm
  have others (m : NodeId) (old : m.index < t.size) : m ≠ t.nextId := by
    intro same
    rw [same, next] at old
    exact Nat.lt_irrefl _ old
  have payloads (m : NodeId) (old : m.index < (t.push payload).size) :
      ((t.push payload).appendChild parent t.nextId).payload? m = (t.push payload).payload? m :=
    payload_edit (t.push payload) (.append parent t.nextId) m old
  have children := pushed.formed.children_append parent t.nextId allowed pushed.above
  have parents := pushed.formed.parent_append parent t.nextId allowed
  constructor
  case formed => exact pushed.formed.well_formed_append_child parent t.nextId
  case size => rw [size_append_child, size_push]
  case whole =>
    intro m old notParent elsewhere
    have still : (t.push payload).parent m ≠ some parent := by
      rw [(pushed.kept m old).2]
      exact elsewhere parent rfl
    rw [pushed.formed.node_append parent t.nextId allowed pushed.above m
      (fun same => notParent (congrArg some same.symm)) (others m old) still]
    exact node_push t payload m old
  case kept =>
    intro m old
    refine ⟨?_, ?_⟩
    · rw [payloads m (by rw [size_push]; exact Nat.lt_succ_of_lt old), (pushed.kept m old).1]
    · rw [parents, if_neg (others m old), (pushed.kept m old).2]
  case children =>
    intro m old
    have before : (t.push payload).children m = t.children m :=
      (pushed.children m old).trans (if_neg (Option.some_ne_none m).symm)
    rw [children, before]
    by_cases own : m = parent
    · rw [if_pos own, if_pos (congrArg some own.symm)]
    · rw [if_neg own, if_neg fun same => own (Option.some.inj same).symm]
  case payload =>
    rw [payloads _ (by rw [size_push, next]; exact Nat.lt_succ_self _), pushed.payload]
  case above => rw [parents, if_pos rfl]
  case bare => rw [children, if_neg apart, pushed.bare]

end WellFormed

end DomQuery.Tree
