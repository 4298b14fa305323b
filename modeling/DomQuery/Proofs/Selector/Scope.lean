import DomQuery.Proofs.Selector.Chain
import DomQuery.Proofs.Selector.Joined

set_option autoImplicit false

namespace DomQuery.Selector

theorem reach_cases (t : Tree) (anchor : Option Combinator) :
    (∀ s, reach t anchor s = t.descendants s) ∨
      ∀ s, reach t anchor s = (t.followingSiblings s).flatMap t.subtree := by
  cases anchor with
  | none => exact Or.inl fun _ => rfl
  | some combinator =>
      cases combinator with
      | descendant => exact Or.inl fun _ => rfl
      | child => exact Or.inl fun _ => rfl
      | nextSibling => exact Or.inr fun _ => rfl
      | subsequentSibling => exact Or.inr fun _ => rfl

theorem relates_cases (t : Tree) (combinator : Combinator) (m n : NodeId)
    (related : combinator.Relates t m n) :
    Relation.TransGen (fun a b => t.parent a = some b) n m ∨ t.SiblingBefore m n := by
  cases combinator with
  | descendant => exact Or.inl related
  | child => exact Or.inl (Relation.TransGen.single related)
  | nextSibling => exact Or.inr related.2.1
  | subsequentSibling => exact Or.inr related

section Reach

variable {t : Tree} (formed : t.WellFormed)

include formed

theorem mem_reach_beside (s n : NodeId) :
    n ∈ (t.followingSiblings s).flatMap t.subtree ↔
      ∃ m, t.SiblingBefore s m ∧ (n = m ∨ m ∈ t.ancestors n) := by
  rw [List.mem_flatMap]
  refine exists_congr fun m => ?_
  rw [formed.mem_following, formed.mem_subtree]

theorem ancestors_of_relates (combinator : Combinator) (a m n : NodeId)
    (above : a ∈ t.ancestors m) (related : combinator.Relates t m n) : a ∈ t.ancestors n := by
  rcases relates_cases t combinator m n related with down | beside
  · exact formed.ancestors_trans a m n above ((formed.mem_ancestors m n).mpr down)
  · obtain ⟨p, parentM, parentN⟩ := formed.parent_of_following m n ((formed.mem_following m n).mpr beside)
    rwa [Tree.WellFormed.ancestors_of_sibling n m (parentN.trans parentM.symm)]

theorem reach_step (combinator : Combinator) (anchor : Option Combinator) (s m n : NodeId)
    (inside : m ∈ reach t anchor s) (related : combinator.Relates t m n) : n ∈ reach t anchor s := by
  rcases reach_cases t anchor with below | beside
  · rw [below, formed.mem_descendants] at inside ⊢
    exact ancestors_of_relates formed combinator s m n inside related
  · rw [beside, mem_reach_beside formed] at inside ⊢
    obtain ⟨f, before, here | above⟩ := inside
    · rw [here] at related
      rcases relates_cases t combinator f n related with down | later
      · exact ⟨f, before, Or.inr ((formed.mem_ancestors f n).mpr down)⟩
      · exact ⟨n, before.trans later, Or.inl rfl⟩
    · exact ⟨f, before, Or.inr (ancestors_of_relates formed combinator f m n above related)⟩

theorem reach_of_anchor (anchor : Option Combinator) (s n : NodeId)
    (anchored : AnchoredAt t anchor (some s) n) : n ∈ reach t anchor s := by
  have beside (before : t.SiblingBefore s n) : n ∈ (t.followingSiblings s).flatMap t.subtree :=
    (mem_reach_beside formed s n).mpr ⟨n, before, Or.inl rfl⟩
  have below (down : Relation.TransGen (fun a b => t.parent a = some b) n s) :
      n ∈ t.descendants s :=
    (formed.mem_descendants s n).mpr ((formed.mem_ancestors s n).mpr down)
  cases anchor with
  | none => exact below anchored
  | some combinator =>
      cases combinator with
      | descendant => exact below anchored
      | child => exact below (Relation.TransGen.single anchored)
      | nextSibling => exact beside anchored.2.1
      | subsequentSibling => exact beside anchored

theorem holds_in_reach (s : NodeId) : (c : Complex) → (n : NodeId) → c.holds t (some s) n →
    n ∈ reach t c.anchor s
  | .start anchor compound, n, holds =>
      reach_of_anchor formed anchor s n ((holds_start formed _ anchor compound n).mp holds).2
  | .link left combinator compound, n, holds => by
      obtain ⟨_, m, related, before⟩ := (holds_link formed _ left combinator compound n).mp holds
      exact reach_step formed combinator _ s m n (holds_in_reach s left m before) related

theorem has_reach (anchor : Option Combinator) (s n : NodeId) (inside : n ∈ reach t anchor s) :
    t.has n := by
  rcases reach_cases t anchor with below | beside
  · rw [below] at inside
    exact formed.has_descendant s n inside
  · rw [beside] at inside
    obtain ⟨m, later, place⟩ := List.mem_flatMap.mp inside
    rcases List.mem_cons.mp place with here | below
    · exact here ▸ formed.has_following s m later
    · exact formed.has_descendant m n below

theorem apart_of_beside (s n : NodeId) (inside : n ∈ (t.followingSiblings s).flatMap t.subtree) :
    s ∉ t.ancestors n := by
  obtain ⟨f, before, place⟩ := (mem_reach_beside formed s n).mp inside
  have found := (formed.mem_following s f).mpr before
  obtain ⟨p, parentS, parentF⟩ := formed.parent_of_following s f found
  have same := parentS.trans parentF.symm
  intro below
  rcases place with here | above
  · rw [here, ← Tree.WellFormed.ancestors_of_sibling s f same] at below
    exact formed.not_own_ancestor s below
  · rw [← formed.siblings_apart s f n same below above] at found
    exact visits_irreflexive t.nextSibling s _ (formed.visits_following s) found

-- What is in the reach of the scope and lies above something below the scope is below it too.
theorem below_of_reach (anchor : Option Combinator) (s m n : NodeId) (inside : m ∈ reach t anchor s)
    (above : m ∈ t.ancestors n) (below : s ∈ t.ancestors n) : m ∈ t.descendants s := by
  have further :=
    reach_step formed .descendant anchor s m n inside ((formed.mem_ancestors m n).mp above)
  rcases reach_cases t anchor with down | beside
  · rwa [down] at inside
  · rw [beside] at further
    exact absurd below (apart_of_beside formed s n further)

theorem holds_attach (scope : Option NodeId) (left : Complex) : (right : Complex) → (n : NodeId) →
    ((left.attach (right.anchor.getD .descendant) right).holds t scope n ↔
      ∃ s, left.holds t scope s ∧ right.holds t (some s) n)
  | .start anchor compound, n => by
      rw [Complex.attach, holds_link formed]
      constructor
      · rintro ⟨meets, s, related, before⟩
        exact ⟨s, before, (holds_start formed _ anchor compound n).mpr ⟨meets, related⟩⟩
      · rintro ⟨s, before, holds⟩
        obtain ⟨meets, related⟩ := (holds_start formed _ anchor compound n).mp holds
        exact ⟨meets, s, related, before⟩
  | .link inner combinator compound, n => by
      rw [Complex.attach, holds_link formed]
      constructor
      · rintro ⟨meets, m, related, before⟩
        obtain ⟨s, first, later⟩ := (holds_attach scope left inner m).mp before
        exact ⟨s, first, (holds_link formed _ inner combinator compound n).mpr
          ⟨meets, m, related, later⟩⟩
      · rintro ⟨s, first, holds⟩
        obtain ⟨meets, m, related, later⟩ := (holds_link formed _ inner combinator compound n).mp holds
        exact ⟨meets, m, related, (holds_attach scope left inner m).mpr ⟨s, first, later⟩⟩

theorem holds_wider (outer inner : NodeId) (above : outer ∈ t.ancestors inner) :
    (c : Complex) → (n : NodeId) → c.anchor = none → c.holds t (some inner) n →
      c.holds t (some outer) n
  | .start anchor compound, n, free, holds => by
      obtain ⟨meets, anchored⟩ := (holds_start formed _ anchor compound n).mp holds
      cases show anchor = none from free
      refine (holds_start formed _ none compound n).mpr ⟨meets, ?_⟩
      have further : Relation.TransGen (fun a b => t.parent a = some b) n inner := anchored
      exact further.trans ((formed.mem_ancestors outer inner).mp above)
  | .link left combinator compound, n, free, holds => by
      obtain ⟨meets, m, related, before⟩ := (holds_link formed _ left combinator compound n).mp holds
      exact (holds_link formed _ left combinator compound n).mpr
        ⟨meets, m, related, holds_wider outer inner above left m free before⟩

end Reach

end DomQuery.Selector
