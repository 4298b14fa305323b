import DomQuery.Proofs.Forest.Run

set_option autoImplicit false

namespace DomQuery.Tree

-- A listing of what is below each node: every child, followed by the listing of the child.
def IsPreorder (t : Tree) (listing : NodeId → List NodeId) : Prop :=
  ∀ n, listing n = (t.children n).flatMap fun c => c :: listing c

-- Where the climb from a node ends: at a sibling to go on with, or nowhere.
inductive Climbs (t : Tree) (root : NodeId) : NodeId → Option NodeId → Prop
  | arrived : Climbs t root root none
  | beside (n m : NodeId) (below : n ≠ root) (next : t.nextSibling n = some m) :
      Climbs t root n (some m)
  | higher (n p : NodeId) (found : Option NodeId) (below : n ≠ root)
      (last : t.nextSibling n = none) (parent : t.parent n = some p) (inside : p ≠ root)
      (further : Climbs t root p found) : Climbs t root n found
  | ended (n : NodeId) (below : n ≠ root) (last : t.nextSibling n = none)
      (top : ∀ p, t.parent n = some p → p = root) : Climbs t root n none

-- The walk that stands at `start` still meets these nodes, and then it ends.
inductive Descends (t : Tree) (root : NodeId) : Option NodeId → List NodeId → Prop
  | ended : Descends t root none []
  | down (n c : NodeId) (ns : List NodeId) (child : t.firstChild n = some c)
      (further : Descends t root (some c) ns) : Descends t root (some n) (n :: ns)
  | up (n : NodeId) (next : Option NodeId) (ns : List NodeId) (leaf : t.firstChild n = none)
      (climb : Climbs t root n next) (further : Descends t root next ns) :
      Descends t root (some n) (n :: ns)

namespace WellFormed

variable {t : Tree} (formed : t.WellFormed) (root : NodeId)

include formed

theorem after_of_climbs (n : NodeId) (found : Option NodeId) (climb : t.Climbs root n found) :
    t.after root n = found := by
  induction climb with
  | arrived => exact after_self t root
  | beside n m below next => rw [formed.after_step root n below, next, Option.some_or]
  | higher n p found below last parent _ _ ih =>
      rw [formed.after_step root n below, last, parent, Option.none_or, Option.bind_some, ih]
  | ended n below last top =>
      rw [formed.after_step root n below, last, Option.none_or]
      cases parent : t.parent n with
      | none => rfl
      | some p => rw [Option.bind_some, top p parent, after_self]

theorem climbs_after (n : NodeId) : t.Climbs root n (t.after root n) := by
  induction n using formed.induction_up with
  | step n ih =>
      by_cases here : n = root
      · subst here
        rw [after_self]
        exact .arrived
      · rw [formed.after_step root n here]
        cases next : t.nextSibling n with
        | some m => exact .beside n m here next
        | none =>
            cases parent : t.parent n with
            | none => exact .ended n here next (by simp [parent])
            | some p =>
                rw [Option.none_or, Option.bind_some]
                by_cases top : p = root
                · rw [top, after_self]
                  refine .ended n here next fun q above => ?_
                  rw [← top, Option.some.inj (above.symm.trans parent)]
                · exact .higher n p _ here next parent top (ih p parent)

theorem visits_of_descends (start : Option NodeId) (ns : List NodeId)
    (walk : t.Descends root start ns) : Visits (t.successor root) start ns := by
  induction walk with
  | ended => rfl
  | down n c ns child _ ih =>
      refine ⟨rfl, ?_⟩
      rwa [successor, child, Option.some_or]
  | up n next ns leaf climb _ ih =>
      refine ⟨rfl, ?_⟩
      rwa [successor, leaf, Option.none_or, formed.after_of_climbs root n next climb]

theorem descends_of_visits (start : Option NodeId) (ns : List NodeId)
    (walk : Visits (t.successor root) start ns) : t.Descends root start ns := by
  induction ns generalizing start with
  | nil =>
      rw [show start = none from walk]
      exact .ended
  | cons n ns ih =>
      obtain ⟨here, rest⟩ := walk
      have further := ih (t.successor root n) rest
      rw [here]
      cases child : t.firstChild n with
      | some c =>
          rw [successor, child, Option.some_or] at further
          exact .down n c ns child further
      | none =>
          rw [successor, child, Option.none_or] at further
          exact .up n _ ns child (formed.climbs_after root n) further

theorem descends_iff (ns : List NodeId) :
    t.Descends root (t.firstChild root) ns ↔ ns = t.descendants root := by
  have same : t.Descends root (t.firstChild root) ns ↔
      Visits (t.successor root) (t.firstChild root) ns :=
    ⟨formed.visits_of_descends root _ ns, formed.descends_of_visits root _ ns⟩
  rw [same]
  exact visits_iff _ _ _ ns (formed.visits_descendants root)

theorem preorder_unique (listing : NodeId → List NodeId) (recursive : t.IsPreorder listing)
    (n : NodeId) : listing n = t.descendants n := by
  induction n using formed.induction_down with
  | step n ih =>
      rw [recursive n, formed.descendants_eq]
      refine List.flatMap_congr fun c child => ?_
      rw [ih c child, subtree]

end WellFormed

theorem descent_lists_preorder (t : Tree) (formed : t.WellFormed) :
    t.IsPreorder t.descendants ∧ (∀ listing, t.IsPreorder listing → listing = t.descendants) ∧
      ∀ root, (∀ ns, t.Descends root (t.firstChild root) ns ↔ ns = t.descendants root) ∧
        (t.descendants root).Nodup ∧ root ∉ t.descendants root ∧
        ∀ n, n ∈ t.descendants root ↔ t.contains root n := by
  refine ⟨formed.descendants_eq, fun listing recursive => ?_, fun root => ?_⟩
  · exact funext (formed.preorder_unique listing recursive)
  · have members (n : NodeId) : n ∈ t.descendants root ↔ t.contains root n := by
      rw [formed.mem_descendants, formed.contains_iff]
    refine ⟨formed.descends_iff root, formed.descendants_nodup root, fun own => ?_, members⟩
    exact formed.not_own_ancestor root ((formed.mem_descendants root root).mp own)

theorem descent_ends_before_paragraph :
    let element (name : String) : Edit := .create (.element ⟨name, .empty⟩)
    let t := Tree.new.editAll
      [element "ul", element "li", element "b", element "li", element "p", .append ⟨0⟩ ⟨1⟩,
        .append ⟨1⟩ ⟨2⟩, .append ⟨2⟩ ⟨3⟩, .append ⟨1⟩ ⟨4⟩, .append ⟨0⟩ ⟨5⟩]
    t.WellFormed ∧ t.nextSibling ⟨1⟩ = some ⟨5⟩ ∧
      t.Descends ⟨1⟩ (t.firstChild ⟨1⟩) [⟨2⟩, ⟨3⟩, ⟨4⟩] ∧
      t.contains ⟨1⟩ ⟨3⟩ ∧ ¬t.contains ⟨1⟩ ⟨5⟩ := by
  intro element t
  have formed : t.WellFormed := Tree.well_formed_new.well_formed_edit_all _ (by decide +kernel)
  have listed : t.descendants ⟨1⟩ = [⟨2⟩, ⟨3⟩, ⟨4⟩] := by decide +kernel
  obtain ⟨_, _, each⟩ := descent_lists_preorder t formed
  obtain ⟨walk, _, _, members⟩ := each ⟨1⟩
  rw [listed] at walk members
  refine ⟨formed, by decide +kernel, (walk _).mpr rfl, (members ⟨3⟩).mp (by simp), ?_⟩
  rw [← members]
  decide

end DomQuery.Tree
