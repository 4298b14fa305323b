import DomQuery.Proofs.Forest.Order
import DomQuery.Proofs.Forest.Run

set_option autoImplicit false

namespace DomQuery.Tree

-- Document order where there is one, and the order of the roots between different trees.
def sortOrder (t : Tree) (a b : NodeId) : Ordering :=
  (t.compareOrder a b).getD (compare (t.rootOf a).word (t.rootOf b).word)

theorem precedes_eq (t : Tree) (a b : NodeId) : t.precedesOrEq a b = (t.sortOrder a b).isLE := by
  rw [precedesOrEq, sortOrder]
  cases t.compareOrder a b with
  | some order => rfl
  | none =>
      rw [Bool.eq_iff_iff, decide_eq_true_iff, Option.getD_none]
      exact Std.isLE_compare.symm

theorem sort_eq (t : Tree) (ns : List NodeId) :
    t.sortDocumentOrder ns = ns.mergeSort fun a b => (t.sortOrder a b).isLE := by
  rw [sortDocumentOrder, show t.precedesOrEq = _ from funext₂ t.precedes_eq]

theorem sort_order_swap (t : Tree) (a b : NodeId) : t.sortOrder b a = (t.sortOrder a b).swap := by
  rw [sortOrder, sortOrder, compare_order_swap]
  cases t.compareOrder a b with
  | some order => rfl
  | none => exact Std.OrientedOrd.eq_swap

theorem first_of_none_iff (a b : NodeId) (ns : List NodeId) :
    firstOf a b ns = none ↔ a ∉ ns ∧ b ∉ ns := by
  induction ns with
  | nil => simp [firstOf]
  | cons n ns ih =>
      by_cases isA : n = a
      · simp [firstOf, isA]
      · by_cases isB : n = b
        · subst isB
          simp [firstOf, isA]
        · simp [firstOf, isA, isB, ih, Ne.symm isA, Ne.symm isB]

theorem compare_listed (t : Tree) (ns : List NodeId)
    (ordered : ns.Pairwise fun a b => t.compareOrder a b = some .lt) (a b : NodeId) (inA : a ∈ ns)
    (inB : b ∈ ns) : t.compareOrder a b = some (compare (ns.idxOf a) (ns.idxOf b)) := by
  rcases Nat.lt_trichotomy (ns.idxOf a) (ns.idxOf b) with less | same | more
  · rw [related_of_index ns ordered a b inB less, Nat.compare_eq_lt.mpr less]
  · rw [same, Nat.compare_eq_eq.mpr rfl, (List.idxOf_inj inA).mp same, compareOrder, if_pos rfl]
  · rw [compare_order_swap, related_of_index ns ordered b a inA more, Nat.compare_eq_gt.mpr more]
    rfl

namespace WellFormed

variable {t : Tree} (formed : t.WellFormed)

include formed

theorem compare_within (a b : NodeId) (same : t.rootOf a = t.rootOf b) :
    t.compareOrder a b = some (compare ((t.subtree (t.rootOf a)).idxOf a)
      ((t.subtree (t.rootOf a)).idxOf b)) := by
  apply compare_listed t _ (formed.subtree_compared _) a b (formed.below_root a).2
  rw [same]
  exact (formed.below_root b).2

theorem compare_none_iff (a b : NodeId) :
    t.compareOrder a b = none ↔ t.rootOf a ≠ t.rootOf b := by
  constructor
  · intro apart same
    rw [formed.compare_within a b same] at apart
    cases apart
  · exact formed.compare_apart a b

theorem sort_order_of_lt (a b : NodeId) (known : t.has b) (less : t.position a < t.position b) :
    t.sortOrder a b = .lt := by
  have back := (formed.precedes_of_lt a b known less).2
  rw [precedes_eq] at back
  rw [sort_order_swap]
  cases order : t.sortOrder b a with
  | gt => rfl
  | lt | eq => simp [order] at back

theorem sort_order_eq (a b : NodeId) (knownA : t.has a) (knownB : t.has b) :
    t.sortOrder a b = compare (t.position a) (t.position b) := by
  rcases Nat.lt_trichotomy (t.position a) (t.position b) with less | same | more
  · rw [formed.sort_order_of_lt a b knownB less, Nat.compare_eq_lt.mpr less]
  · rw [same, Nat.compare_eq_eq.mpr rfl, formed.position_injective a b knownA same, sortOrder,
      compareOrder, if_pos rfl, Option.getD_some]
  · rw [sort_order_swap, formed.sort_order_of_lt b a knownA more, Nat.compare_eq_gt.mpr more]
    rfl

end WellFormed

theorem comparison_is_total (t : Tree) (formed : t.WellFormed) :
    (∀ a b, t.has a → t.has b →
      (t.compareOrder a b = none ↔ t.rootOf a ≠ t.rootOf b) ∧
      (t.rootOf a = t.rootOf b →
        let listed := t.rootOf a :: t.descendants (t.rootOf a)
        a ∈ listed ∧ b ∈ listed ∧
          t.compareOrder a b = some (compare (listed.idxOf a) (listed.idxOf b)))) ∧
    (∀ p a b, t.parent a = some p → firstOf a b (t.children p) ≠ none) ∧
    (∀ ns, t.sortDocumentOrder ns = ns.mergeSort fun a b => (t.sortOrder a b).isLE) ∧
    (∀ a b, t.sortOrder b a = (t.sortOrder a b).swap) ∧
    (∀ a b, t.has a → t.has b → (t.sortOrder a b = .eq ↔ a = b)) ∧
    (∀ a b, t.has a → t.has b → a ≠ b → t.sortOrder a b = .lt ∨ t.sortOrder b a = .lt) ∧
    ∀ a b c, t.has a → t.has b → t.has c →
      t.sortOrder a b = .lt → t.sortOrder b c = .lt → t.sortOrder a c = .lt := by
  refine ⟨fun a b _ _ => ⟨formed.compare_none_iff a b, fun same => ⟨?_, ?_, ?_⟩⟩, ?_, t.sort_eq,
    t.sort_order_swap, ?_, ?_, ?_⟩
  · exact (formed.below_root a).2
  · rw [same]
    exact (formed.below_root b).2
  · exact formed.compare_within a b same
  · intro p a b parent none
    exact ((first_of_none_iff a b _).mp none).1 ((formed.mem_children p a).mpr parent)
  · intro a b knownA knownB
    rw [formed.sort_order_eq a b knownA knownB, Nat.compare_eq_eq]
    exact ⟨formed.position_injective a b knownA, fun same => congrArg t.position same⟩
  · intro a b knownA knownB apart
    rw [formed.sort_order_eq a b knownA knownB, formed.sort_order_eq b a knownB knownA,
      Nat.compare_eq_lt, Nat.compare_eq_lt]
    exact Nat.lt_or_gt_of_ne fun same => apart (formed.position_injective a b knownA same)
  · intro a b c knownA knownB knownC
    rw [formed.sort_order_eq a b knownA knownB, formed.sort_order_eq b c knownB knownC,
      formed.sort_order_eq a c knownA knownC, Nat.compare_eq_lt, Nat.compare_eq_lt,
      Nat.compare_eq_lt]
    exact Nat.lt_trans

theorem paragraph_compared_last :
    let element (name : String) : Edit := .create (.element ⟨name, .empty⟩)
    let t := Tree.new.editAll
      [element "p", element "ul", element "li", element "li", .append ⟨0⟩ ⟨2⟩, .append ⟨2⟩ ⟨4⟩,
        .append ⟨2⟩ ⟨3⟩]
    t.WellFormed ∧ t.compareOrder ⟨2⟩ ⟨4⟩ = some .lt ∧ t.compareOrder ⟨3⟩ ⟨4⟩ = some .gt ∧
      t.compareOrder ⟨4⟩ ⟨1⟩ = none ∧ t.sortOrder ⟨2⟩ ⟨3⟩ = .lt ∧ t.sortOrder ⟨3⟩ ⟨1⟩ = .lt ∧
      t.sortOrder ⟨2⟩ ⟨1⟩ = .lt := by
  intro element t
  have formed : t.WellFormed := Tree.well_formed_new.well_formed_edit_all _ (by decide +kernel)
  obtain ⟨one, two, three, four⟩ : t.has ⟨1⟩ ∧ t.has ⟨2⟩ ∧ t.has ⟨3⟩ ∧ t.has ⟨4⟩ := by
    decide +kernel
  have item : t.sortOrder ⟨2⟩ ⟨3⟩ = .lt := by decide +kernel
  have outside : t.sortOrder ⟨3⟩ ⟨1⟩ = .lt := by decide +kernel
  obtain ⟨within, _, _, _, _, _, transitive⟩ := comparison_is_total t formed
  obtain ⟨apart, _⟩ := within ⟨4⟩ ⟨1⟩ four one
  obtain ⟨_, below⟩ := within ⟨2⟩ ⟨4⟩ two four
  obtain ⟨_, beside⟩ := within ⟨3⟩ ⟨4⟩ three four
  refine ⟨formed, (below ?_).2.2.trans ?_, (beside ?_).2.2.trans ?_, apart.mpr ?_, item, outside,
    transitive ⟨2⟩ ⟨3⟩ ⟨1⟩ two three one item outside⟩
  all_goals decide +kernel

end DomQuery.Tree
