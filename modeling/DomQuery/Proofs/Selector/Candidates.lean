import DomQuery.Proofs.Forest.Order
import DomQuery.Proofs.Selector.Scope

set_option autoImplicit false

namespace DomQuery.Selector

def Complex.isBeside (c : Complex) : Bool :=
  c.anchor = some .nextSibling || c.anchor = some .subsequentSibling

def Complex.matched (t : Tree) (c : Complex) (scope : NodeId) : List NodeId :=
  t.ids.filter (c.holds t (some scope))

theorem any_reached_iff (t : Tree) (n : NodeId) (list : List Complex) :
    anyReached t n list ↔ ∃ c ∈ list, ∃ m ∈ reach t c.anchor n, c.holds t (some n) m := by
  induction list with
  | nil => simp [anyReached]
  | cons entry entries ih => simp [anyReached, ih]

theorem reach_of_is_beside (t : Tree) (c : Complex) (s : NodeId) :
    reach t c.anchor s =
      if c.isBeside then (t.followingSiblings s).flatMap t.subtree else t.descendants s := by
  rw [Complex.isBeside]
  cases c.anchor with
  | none => rfl
  | some combinator => cases combinator <;> rfl

section Scoped

variable {t : Tree} (formed : t.WellFormed) (s : NodeId)

include formed

theorem mem_matched (c : Complex) (n : NodeId) :
    n ∈ c.matched t s ↔ n ∈ reach t c.anchor s ∧ c.holds t (some s) n := by
  rw [Complex.matched, List.mem_filter, t.mem_ids n formed.room]
  refine and_congr_left fun holds => ⟨fun _ => holds_in_reach formed s c n holds, fun inside => ?_⟩
  exact has_reach formed c.anchor s n inside

theorem matched_below (c : Complex) (below : ¬c.isBeside) (n : NodeId) (found : n ∈ c.matched t s) :
    n ∈ t.descendants s := by
  have inside := ((mem_matched formed s c n).mp found).1
  rwa [reach_of_is_beside, if_neg below] at inside

theorem matched_beside (c : Complex) (beside : c.isBeside) (n : NodeId) (found : n ∈ c.matched t s) :
    n ∈ (t.followingSiblings s).flatMap t.subtree := by
  have inside := ((mem_matched formed s c n).mp found).1
  rwa [reach_of_is_beside, if_pos beside] at inside

theorem not_below_of_beside (n : NodeId) (inside : n ∈ (t.followingSiblings s).flatMap t.subtree) :
    n ∉ t.descendants s := by
  rw [formed.mem_descendants]
  exact apart_of_beside formed s n inside

theorem reached_iff_matched (list : List Complex) :
    anyReached t s list ↔ ∃ c ∈ list, c.matched t s ≠ [] := by
  rw [any_reached_iff]
  refine exists_congr fun c => and_congr_right fun _ => ?_
  simp only [ne_eq, List.eq_nil_iff_forall_not_mem, mem_matched formed, not_forall, not_not]

theorem mem_query_matched (list : SelectorList) (n : NodeId) :
    n ∈ list.queryAll t s ↔ ∃ c ∈ list, ¬c.isBeside ∧ n ∈ c.matched t s := by
  rw [SelectorList.queryAll, List.mem_filter, SelectorList.holdsIn, any_holds_iff,
    ← exists_and_left]
  refine exists_congr fun c => ?_
  rw [and_left_comm]
  refine and_congr_right fun _ => ⟨fun ⟨below, holds⟩ => ?_, fun ⟨below, found⟩ => ?_⟩
  · have inside := holds_in_reach formed s c n holds
    refine ⟨fun beside => ?_, (mem_matched formed s c n).mpr ⟨inside, holds⟩⟩
    rw [reach_of_is_beside, if_pos beside] at inside
    exact not_below_of_beside formed s n inside below
  · exact ⟨matched_below formed s c below n found, ((mem_matched formed s c n).mp found).2⟩

theorem candidates_are_exact :
    (∀ c : Complex, ¬c.isBeside → ∀ n ∈ c.matched t s, n ∈ t.descendants s) ∧
    (∀ c : Complex, c.isBeside → ∀ n ∈ c.matched t s,
      (∃ m ∈ t.followingSiblings s, n = m ∨ n ∈ t.descendants m) ∧ n ∉ t.descendants s) ∧
    ∀ list : SelectorList,
      (anyReached t s list ↔ ∃ c ∈ list, c.matched t s ≠ []) ∧
      (list.queryAll t s).Sublist (t.descendants s) ∧ t.InOrder (list.queryAll t s) ∧
      ∀ n, n ∈ list.queryAll t s ↔ ∃ c ∈ list, ¬c.isBeside ∧ n ∈ c.matched t s := by
  refine ⟨matched_below formed s, fun c beside n found => ?_, fun list =>
    ⟨reached_iff_matched formed s list, List.filter_sublist, ?_, mem_query_matched formed s list⟩⟩
  · have inside := matched_beside formed s c beside n found
    refine ⟨?_, not_below_of_beside formed s n inside⟩
    simpa only [List.mem_flatMap, Tree.subtree, List.mem_cons] using inside
  · exact List.Pairwise.filter _ (formed.descendants_in_order s)

end Scoped

theorem emphasis_behind_heading :
    let element (name : String) : Edit := .create (.element ⟨name, .empty⟩)
    let t := Tree.new.editAll
      [element "div", element "h1", element "p", element "em", .append ⟨0⟩ ⟨1⟩, .append ⟨1⟩ ⟨2⟩,
        .append ⟨1⟩ ⟨3⟩, .append ⟨3⟩ ⟨4⟩]
    let child : Complex := .start (some .child) [.type "p"]
    let next : Complex := .link (.start (some .nextSibling) [.type "p"]) .child [.type "em"]
    next.matched t ⟨2⟩ = [⟨4⟩] ∧ ⟨4⟩ ∉ t.descendants ⟨2⟩ ∧ anyReached t ⟨2⟩ [child, next] ∧
      SelectorList.queryAll [child, next] t ⟨2⟩ = [] ∧
      child.matched t ⟨1⟩ = [⟨3⟩] ∧ ⟨3⟩ ∈ t.descendants ⟨1⟩ ∧
      ⟨3⟩ ∈ SelectorList.queryAll [next, child] t ⟨1⟩ := by
  intro element t child next
  have formed : t.WellFormed := Tree.well_formed_new.well_formed_edit_all _ (by decide +kernel)
  have behind : next.matched t ⟨2⟩ = [⟨4⟩] := by decide +kernel
  have inside : child.matched t ⟨1⟩ = [⟨3⟩] := by decide +kernel
  obtain ⟨_, beside, listed⟩ := candidates_are_exact formed ⟨2⟩
  obtain ⟨below, _, listedInside⟩ := candidates_are_exact formed ⟨1⟩
  refine ⟨behind, (beside next rfl ⟨4⟩ (by simp [behind])).2, ?_, by decide +kernel, inside,
    below child nofun ⟨3⟩ (by simp [inside]), ?_⟩
  · exact (listed [child, next]).1.mpr ⟨next, by simp, by simp [behind]⟩
  · exact ((listedInside [next, child]).2.2.2 ⟨3⟩).mpr ⟨child, by simp, nofun, by simp [inside]⟩

end DomQuery.Selector
