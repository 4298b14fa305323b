import DomQuery.Proofs.Forest.Run

set_option autoImplicit false

namespace DomQuery

theorem Links.cut_nothing (l : Links) (root : l.parent = none) (first : l.prevSibling = none)
    (last : l.nextSibling = none) :
    { l with parent := none, prevSibling := none, nextSibling := none } = l := by
  cases l
  simp_all

namespace Tree

-- `u` is `t` after `c` has left its place, together with all that is below it.
structure Detached (t u : Tree) (c : NodeId) : Prop where
  size : u.size = t.size
  root : u.parent c = none
  own : ∀ q, t.parent c = some q → u.children q = (t.children q).erase c
  rows : ∀ q, t.parent c ≠ some q → u.children q = t.children q
  parents : ∀ m, m ≠ c → u.parent m = t.parent m
  payloads : ∀ m, u.payload? m = t.payload? m
  below : u.subtree c = t.subtree c

-- `u` is `t` after `c` has become the last child of `p`.
structure Moved (t u : Tree) (p c : NodeId) : Prop where
  size : u.size = t.size
  parent : u.parent c = some p
  own : u.children p = (t.children p).erase c ++ [c]
  rows : ∀ q, q ≠ p → u.children q = (t.children q).erase c
  parents : ∀ m, m ≠ c → u.parent m = t.parent m
  payloads : ∀ m, u.payload? m = t.payload? m

theorem modify_links_same (t : Tree) (n : NodeId) (f : Links → Links)
    (same : f (t.links n) = t.links n) : t.modifyLinks n f = t := by
  have unchanged : t.modifyLinks n f = t.modify n id := by
    apply t.modify_congr
    intro node found
    have own : t.links n = node.links := by simp [links, found]
    rw [own] at same
    rw [same, id]
  rw [unchanged, modify_id]

theorem can_append_iff (t : Tree) (parent child : NodeId) :
    t.canAppend parent child ↔
      t.has parent ∧ t.has child ∧ parent ≠ child ∧ ¬t.contains child parent := by
  simp [canAppend, and_assoc]

namespace WellFormed

variable {t : Tree} (formed : t.WellFormed)

include formed

theorem detach_root (c : NodeId) (root : t.parent c = none) : t.detach c = t := by
  by_cases known : t.has c
  · obtain ⟨noPrev, noNext⟩ := formed.alone c root
    have whole : t.unlink c = t := by
      rw [unlink, root, noPrev, noNext]
      rfl
    rw [detach, if_pos known, whole]
    exact t.modify_links_same c _ ((t.links c).cut_nothing root noPrev noNext)
  · rw [detach, if_neg known]

theorem root_of_unknown (c : NodeId) (unknown : ¬t.has c) : t.parent c = none := by
  cases above : t.parent c with
  | none => rfl
  | some p => exact absurd (formed.has_child c p above) unknown

theorem children_detach_eq (c q : NodeId) : (t.detach c).children q = (t.children q).erase c := by
  by_cases known : t.has c
  · exact children_of_row _ q _ (formed.children_detach c q known)
  · have absent := formed.not_child_of_root c q (formed.root_of_unknown c known)
    rw [detach, if_neg known, List.erase_of_not_mem absent]

theorem detached_of_detach (c : NodeId) : t.Detached (t.detach c) c := by
  have rows : ∀ q, t.parent c ≠ some q → (t.detach c).children q = t.children q := by
    intro q elsewhere
    have absent : c ∉ t.children q := fun member => elsewhere ((formed.mem_children q c).mp member)
    rw [formed.children_detach_eq, List.erase_of_not_mem absent]
  have same : t.SameAt (t.detach c) (t.subtree c) := by
    intro m below
    have elsewhere : t.parent c ≠ some m := by
      intro above
      have inner := (formed.mem_subtree c m).mp below
      have outer := (formed.mem_ancestors_child m c m above).mpr (Or.inl rfl)
      rcases inner with here | higher
      · rw [here] at outer
        exact formed.not_own_ancestor c outer
      · exact formed.not_own_ancestor m (formed.ancestors_trans m c m outer higher)
    exact ⟨payload_detach t c m, rows m elsewhere⟩
  constructor
  case size => exact size_detach t c
  case root =>
    by_cases known : t.has c
    · rw [formed.parent_detach c c known, if_pos rfl]
    · rw [detach, if_neg known, formed.root_of_unknown c known]
  case own => exact fun q _ => formed.children_detach_eq c q
  case rows => exact rows
  case parents =>
    intro m other
    by_cases known : t.has c
    · rw [formed.parent_detach c m known, if_neg other]
    · rw [detach, if_neg known]
  case payloads => exact payload_detach t c
  case below => exact formed.subtree_same (formed.well_formed_detach c) c same

section Append

variable (parent child : NodeId) (allowed : t.canAppend parent child)

include allowed

theorem parent_append (m : NodeId) :
    (t.appendChild parent child).parent m = if m = child then some parent else t.parent m := by
  obtain ⟨knownParent, knownChild, _⟩ := (can_append_iff t parent child).mp allowed
  have detached := formed.well_formed_detach child
  rw [appendChild, if_pos allowed, detached.parent_link_last parent child
    (by rwa [has, size_detach]) (by rwa [has, size_detach]), formed.parent_detach child m knownChild]
  by_cases here : m = child
  · rw [if_pos here, if_pos here]
  · rw [if_neg here, if_neg here, if_neg here]

theorem children_move (p : NodeId) :
    (t.appendChild parent child).children p =
      if p = parent then (t.children p).erase child ++ [child] else (t.children p).erase child := by
  obtain ⟨knownParent, knownChild, _⟩ := (can_append_iff t parent child).mp allowed
  have detached := formed.well_formed_detach child
  have hasParent : (t.detach child).has parent := by rwa [has, size_detach]
  have hasChild : (t.detach child).has child := by rwa [has, size_detach]
  have free := (formed.detached_of_detach child).root
  rw [appendChild, if_pos allowed, ← formed.children_detach_eq]
  by_cases own : p = parent
  · rw [if_pos own, own]
    exact children_of_row _ parent _
      (detached.row_link_last_own parent child hasParent hasChild free)
  · rw [if_neg own]
    exact children_of_row _ p _
      (detached.row_link_last_other parent child hasParent hasChild free p own)

theorem moved_append : t.Moved (t.appendChild parent child) parent child := by
  constructor
  case size => exact size_append_child t parent child
  case parent => rw [formed.parent_append parent child allowed, if_pos rfl]
  case own => rw [formed.children_move parent child allowed, if_pos rfl]
  case rows =>
    intro q other
    rw [formed.children_move parent child allowed, if_neg other]
  case parents =>
    intro m other
    rw [formed.parent_append parent child allowed, if_neg other]
  case payloads =>
    intro m
    rw [appendChild, if_pos allowed, payload_link_last, payload_detach]

end Append

end WellFormed

theorem moves_are_exact (t : Tree) (formed : t.WellFormed) (p c : NodeId) :
    (¬t.has p ∨ ¬t.has c ∨ p = c ∨ c ∈ t.ancestors p → t.appendChild p c = t) ∧
      (t.has p → t.has c → p ≠ c → c ∉ t.ancestors p → t.Moved (t.appendChild p c) p c) ∧
      t.Detached (t.detach c) c ∧ (t.parent c = none ∨ ¬t.has c → t.detach c = t) := by
  have allowed_iff : t.canAppend p c ↔ t.has p ∧ t.has c ∧ p ≠ c ∧ c ∉ t.ancestors p := by
    rw [can_append_iff, formed.contains_iff]
  refine ⟨fun refused => ?_, fun knownP knownC apart free => ?_, formed.detached_of_detach c, ?_⟩
  · have stays : ¬t.canAppend p c := by
      rw [allowed_iff]
      tauto
    rw [appendChild, if_neg stays]
  · exact formed.moved_append p c (allowed_iff.mpr ⟨knownP, knownC, apart, free⟩)
  · rintro (root | unknown)
    · exact formed.detach_root c root
    · rw [detach, if_neg unknown]

theorem middle_item_moves :
    let element (name : String) : Edit := .create (.element ⟨name, .empty⟩)
    let t := Tree.new.editAll
      [element "ul", element "li", element "li", element "li", element "p", .create (.text "and"),
        .append ⟨0⟩ ⟨1⟩, .append ⟨1⟩ ⟨2⟩, .append ⟨1⟩ ⟨3⟩, .append ⟨1⟩ ⟨4⟩, .append ⟨0⟩ ⟨5⟩,
        .append ⟨5⟩ ⟨6⟩]
    t.WellFormed ∧ t.appendChild ⟨3⟩ ⟨1⟩ = t ∧ t.appendChild ⟨5⟩ ⟨9⟩ = t ∧
      (t.appendChild ⟨5⟩ ⟨3⟩).children ⟨5⟩ = [⟨6⟩, ⟨3⟩] ∧
      (t.appendChild ⟨5⟩ ⟨3⟩).children ⟨1⟩ = [⟨2⟩, ⟨4⟩] ∧
      (t.detach ⟨3⟩).children ⟨1⟩ = [⟨2⟩, ⟨4⟩] ∧ t.detach ⟨0⟩ = t := by
  intro element t
  have formed : t.WellFormed := Tree.well_formed_new.well_formed_edit_all _ (by decide +kernel)
  have list : t.children ⟨1⟩ = [⟨2⟩, ⟨3⟩, ⟨4⟩] := by decide +kernel
  have paragraph : t.children ⟨5⟩ = [⟨6⟩] := by decide +kernel
  have above : ⟨1⟩ ∈ t.ancestors ⟨3⟩ := by decide +kernel
  have unknown : ¬t.has ⟨9⟩ := by decide +kernel
  obtain ⟨_, move, left, _⟩ := moves_are_exact t formed ⟨5⟩ ⟨3⟩
  have moved := move (by decide +kernel) (by decide +kernel) (by decide) (by decide +kernel)
  obtain ⟨cyclic, _⟩ := moves_are_exact t formed ⟨3⟩ ⟨1⟩
  obtain ⟨missing, _⟩ := moves_are_exact t formed ⟨5⟩ ⟨9⟩
  obtain ⟨_, _, _, kept⟩ := moves_are_exact t formed ⟨0⟩ ⟨0⟩
  refine ⟨formed, cyclic (Or.inr (Or.inr (Or.inr above))), missing (Or.inr (Or.inl unknown)),
    ?_, ?_, ?_, kept (Or.inl (by decide +kernel))⟩
  · rw [moved.own, paragraph]
    rfl
  · rw [moved.rows ⟨1⟩ (by decide), list]
    rfl
  · rw [left.own ⟨1⟩ (by decide +kernel), list]
    rfl

end Tree

end DomQuery
