import DomQuery.Proofs.Forest.Run
import DomQuery.Proofs.Selection.Outcome

set_option autoImplicit false

namespace DomQuery

namespace Tree

def otherElements (t : Tree) (n : NodeId) : List NodeId :=
  match t.parent n with
  | some parent => (t.elementChildren parent).filter (· ≠ n)
  | none => []

namespace WellFormed

variable {t : Tree} (formed : t.WellFormed)

include formed

theorem nearest_iff (x y : NodeId) (elementX : t.isElement x) (elementY : t.isElement y) :
    (t.followingSiblings x).find? t.isElement = some y ↔
      (t.precedingSiblings y).find? t.isElement = some x := by
  rw [List.find?_eq_some_iff_append, List.find?_eq_some_iff_append]
  constructor
  · rintro ⟨_, nearer, farther, split, passed⟩
    obtain ⟨front, turned⟩ := formed.preceding_of_following x y nearer farther split
    exact ⟨elementX, nearer.reverse, front, turned, fun m near => passed m (List.mem_reverse.mp near)⟩
  · rintro ⟨_, nearer, farther, split, passed⟩
    obtain ⟨back, turned, _⟩ := formed.following_of_preceding x y nearer farther split
    exact ⟨elementY, nearer.reverse, back, turned, fun m near => passed m (List.mem_reverse.mp near)⟩

theorem other_elements_eq (x : NodeId) :
    t.otherElements x = ((t.precedingSiblings x).filter t.isElement).reverse ++
      (t.followingSiblings x).filter t.isElement := by
  rw [otherElements]
  cases parent : t.parent x with
  | none => simp [formed.preceding_root x parent, formed.following_root x parent]
  | some p =>
      obtain ⟨front, back, row, preceding, following⟩ := formed.split_at_child p x parent
      have distinct := (formed.row_children p).distinct
      rw [row, List.nodup_middle, List.nodup_cons, List.mem_append, not_or] at distinct
      obtain ⟨⟨before, behind⟩, _⟩ := distinct
      have others (ns : List NodeId) (fresh : x ∉ ns) :
          (ns.filter t.isElement).filter (· ≠ x) = ns.filter t.isElement := by
        refine List.filter_eq_self.mpr fun m member => decide_eq_true fun same => fresh ?_
        rw [← same]
        exact (List.mem_filter.mp member).1
      rw [preceding, following, List.filter_reverse, List.reverse_reverse]
      simp only [elementChildren, row, List.filter_append, others front before]
      by_cases element : t.isElement x
      · rw [List.filter_cons_of_pos element, List.filter_cons_of_neg (by simp), others back behind]
      · rw [List.filter_cons_of_neg element, others back behind]

end WellFormed

end Tree

-- Both operations succeed, and either each finds the node of the other or neither does.
def Converse (forth back : DocumentM Selection) (d : Document) (x y : NodeId) : Prop :=
  ∃ ns ms, forth.yields d = some ns ∧ back.yields d = some ms ∧ (y ∈ ns ↔ x ∈ ms)

theorem Selection.yields_walk (s : Selection) (d : Document) (inputs : List NodeId) (x : NodeId)
    (only : inputs = [x]) (step : Tree → NodeId → List NodeId) :
    (s.walk inputs none step).yields d = some (step d.tree x).eraseDups := by
  rw [only, ← List.flatMap_singleton (step d.tree) x]
  rfl

theorem Selection.yields_walk_distinct (s : Selection) (d : Document) (x : NodeId)
    (only : s.nodes = [x]) (step : Tree → NodeId → List NodeId) (distinct : (step d.tree x).Nodup) :
    (s.walk s.nodes none step).yields d = some (step d.tree x) := by
  rw [s.yields_walk d s.nodes x only, Tree.erase_dups_of_nodup _ distinct]

theorem converse_of_walks (a b : Selection) (d : Document) (inputs outputs : List NodeId)
    (x y : NodeId) (onlyX : inputs = [x]) (onlyY : outputs = [y])
    (forth back : Tree → NodeId → List NodeId)
    (turned : y ∈ forth d.tree x ↔ x ∈ back d.tree y) :
    Converse (a.walk inputs none forth) (b.walk outputs none back) d x y := by
  refine ⟨_, _, a.yields_walk d inputs x onlyX forth, b.yields_walk d outputs y onlyY back, ?_⟩
  rw [List.mem_eraseDups, List.mem_eraseDups]
  exact turned

section Traversals

variable {d : Document} (formed : d.tree.WellFormed) (a b : Selection) (x y : NodeId)
  (onlyX : a.nodes = [x]) (onlyY : b.nodes = [y]) (elementX : d.tree.isElement x)
  (elementY : d.tree.isElement y)

include formed onlyX

theorem siblings_yielded :
    ∃ before behind, (a.prevAll none).yields d = some before ∧
      (a.nextAll none).yields d = some behind ∧
      (a.siblings none).yields d = some (before.reverse ++ behind) := by
  have before : (d.tree.precedingSiblings x).Nodup :=
    visits_nodup _ _ _ (formed.visits_preceding x)
  have behind : (d.tree.followingSiblings x).Nodup :=
    visits_nodup _ _ _ (formed.visits_following x)
  refine ⟨_, _, a.yields_walk_distinct d x onlyX _ (before.filter _),
    a.yields_walk_distinct d x onlyX _ (behind.filter _), ?_⟩
  rw [← formed.other_elements_eq x]
  refine a.yields_walk_distinct d x onlyX Tree.otherElements ?_
  rw [Tree.otherElements]
  cases d.tree.parent x with
  | none => exact List.nodup_nil
  | some p => exact ((formed.row_children p).distinct.filter _).filter _

include onlyY elementX elementY

theorem next_all_converse : Converse (a.nextAll none) (b.prevAll none) d x y := by
  apply converse_of_walks a b d _ _ x y onlyX onlyY
  rw [List.mem_filter, List.mem_filter, formed.mem_following, formed.mem_preceding]
  exact and_congr_right fun _ => iff_of_true elementY elementX

theorem next_converse : Converse (a.next none) (b.prev none) d x y := by
  apply converse_of_walks a b d _ _ x y onlyX onlyY
  rw [Option.mem_toList, Option.mem_toList]
  exact formed.nearest_iff x y elementX elementY

theorem children_converse : Converse (a.children none) (b.parent none) d x y := by
  apply converse_of_walks a b d _ _ x y onlyX onlyY
  rw [Tree.elementChildren, List.mem_filter, formed.mem_children, Option.mem_toList,
    Option.filter_eq_some_iff]
  exact and_congr_right fun _ => iff_of_true elementY elementX

theorem parents_converse : Converse (a.parents none) b.descendants d x y := by
  have only : a.nodes.reverse = [x] := by rw [onlyX, List.reverse_singleton]
  refine ⟨_, _, a.yields_walk d _ x only _, rfl, ?_⟩
  rw [onlyY, List.flatMap_singleton, List.mem_eraseDups, List.mem_eraseDups, List.mem_filter,
    List.mem_filter, formed.mem_descendants]
  exact and_congr_right fun _ => iff_of_true elementY elementX

theorem siblings_converse : Converse (a.siblings none) (b.siblings none) d x y := by
  apply converse_of_walks a b d _ _ x y onlyX onlyY Tree.otherElements Tree.otherElements
  rw [formed.other_elements_eq, formed.other_elements_eq]
  simp only [List.mem_append, List.mem_reverse, List.mem_filter, formed.mem_preceding,
    formed.mem_following, elementX, elementY, and_true]
  exact or_comm

end Traversals

theorem traversals_are_converse (d : Document) (formed : d.tree.WellFormed) (a : Selection)
    (x : NodeId) (onlyX : a.nodes = [x]) :
    (∀ (b : Selection) (y : NodeId), b.nodes = [y] → d.tree.isElement x → d.tree.isElement y →
      Converse (a.nextAll none) (b.prevAll none) d x y ∧
      Converse (a.next none) (b.prev none) d x y ∧
      Converse (a.children none) (b.parent none) d x y ∧
      Converse (a.parents none) b.descendants d x y ∧
      Converse (a.siblings none) (b.siblings none) d x y) ∧
    ∃ before behind, (a.prevAll none).yields d = some before ∧
      (a.nextAll none).yields d = some behind ∧
      (a.siblings none).yields d = some (before.reverse ++ behind) := by
  refine ⟨fun b y onlyY elementX elementY => ?_, siblings_yielded formed a x onlyX⟩
  exact ⟨next_all_converse formed a b x y onlyX onlyY elementX elementY,
    next_converse formed a b x y onlyX onlyY elementX elementY,
    children_converse formed a b x y onlyX onlyY elementX elementY,
    parents_converse formed a b x y onlyX onlyY elementX elementY,
    siblings_converse formed a b x y onlyX onlyY elementX elementY⟩

theorem items_find_each_other :
    let element (name : String) : Edit := .create (.element ⟨name, .empty⟩)
    let t := Tree.new.editAll
      [element "ul", element "li", .create (.text "and"), element "li", .create (.comment "or"),
        element "li", .append ⟨0⟩ ⟨1⟩, .append ⟨1⟩ ⟨2⟩, .append ⟨1⟩ ⟨3⟩, .append ⟨1⟩ ⟨4⟩,
        .append ⟨1⟩ ⟨5⟩, .append ⟨1⟩ ⟨6⟩]
    let d : Document := { id := 0, tree := t, reader := default }
    let a : Selection := ⟨0, 0, [⟨4⟩], []⟩
    let b : Selection := ⟨0, 1, [⟨6⟩], []⟩
    d.tree.WellFormed ∧ d.tree.isElement ⟨4⟩ ∧ d.tree.isElement ⟨6⟩ ∧
      (a.next none).yields d = some [⟨6⟩] ∧ (∃ ms, (b.prev none).yields d = some ms ∧ ⟨4⟩ ∈ ms) ∧
      (a.siblings none).yields d = some [⟨2⟩, ⟨6⟩] := by
  intro element t d a b
  have grown : t.WellFormed := Tree.well_formed_new.well_formed_edit_all _ (by decide +kernel)
  have formed : d.tree.WellFormed := by
    dsimp only [d]
    exact grown
  obtain ⟨elementX, elementY⟩ : d.tree.isElement ⟨4⟩ ∧ d.tree.isElement ⟨6⟩ := by decide +kernel
  have next : (a.next none).yields d = some [⟨6⟩] := by decide +kernel
  obtain ⟨turned, before, behind, first, last, both⟩ :=
    traversals_are_converse d formed a ⟨4⟩ rfl
  obtain ⟨_, ⟨ns, ms, forth, back, found⟩, _⟩ := turned b ⟨6⟩ rfl elementX elementY
  have here : ns = [⟨6⟩] := Option.some.inj (forth.symm.trans next)
  have earlier : before = [⟨2⟩] := Option.some.inj (first.symm.trans (by decide +kernel))
  have later : behind = [⟨6⟩] := Option.some.inj (last.symm.trans (by decide +kernel))
  rw [earlier, later] at both
  exact ⟨formed, elementX, elementY, next, ⟨ms, back, found.mp (by simp [here])⟩, both⟩

end DomQuery
