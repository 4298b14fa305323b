import DomQuery.Proofs.Selection.Extent
import DomQuery.Proofs.Selection.Find
import DomQuery.Proofs.Selector.Unanchored

set_option autoImplicit false

namespace DomQuery

open Selector (SelectorList)

namespace Selector

variable {t : Tree} (formed : t.WellFormed) (scope : NodeId) (parts : Compound)

include formed

theorem holds_child_iff (n : NodeId) :
    SelectorList.holdsIn [.start (some .child) parts] t scope n ↔
      t.parent n = some scope ∧ SelectorList.holds [.start none parts] t n := by
  rw [SelectorList.holdsIn, SelectorList.holds, any_holds_iff, any_holds_iff]
  simp only [List.mem_singleton, exists_eq_left, holds_start formed]
  rw [AnchoredAt, AnchoredAt, and_iff_left rfl]
  exact and_comm

theorem query_child : SelectorList.queryAll [.start (some .child) parts] t scope =
    (t.elementChildren scope).filter (SelectorList.holds [.start none parts] t) := by
  rw [SelectorList.queryAll, Tree.elementChildren, List.filter_filter,
    ← formed.children_of_descendants, List.filter_filter]
  refine List.filter_congr fun n _ => ?_
  rw [Bool.eq_iff_iff, holds_child_iff formed]
  simp only [Bool.and_eq_true, decide_eq_true_eq]
  constructor
  · rintro ⟨parent, holds⟩
    obtain ⟨c, _, matched⟩ := (any_holds_iff t none n _).mp holds
    exact ⟨⟨holds, c.is_element_of_holds t none n matched⟩, parent⟩
  · rintro ⟨⟨holds, _⟩, parent⟩
    exact ⟨parent, holds⟩

end Selector

theorem children_are_anchored_finds (d : Document) (formed : d.tree.WellFormed) (s : Selection)
    (text : String) (parts : Selector.Compound)
    (read : SelectorList.parse text = .ok [.start none parts]) :
    ∃ ns, (s.children (some text)).yields d = some ns ∧
      (s.find (.selector ("> " ++ text))).yields d = some ns := by
  have anchored := Selector.parse_child_of_parse text parts read
  have filters : d.Filters (some text) (SelectorList.holds [.start none parts] d.tree) :=
    ⟨_, read, rfl⟩
  have below := funext fun scope => Selector.query_child formed scope parts
  refine ⟨_, s.yields_walk_filtered d s.nodes _ _ Tree.elementChildren filters, ?_⟩
  rw [DocumentM.yields_of_run _ d _ _ (run_find s _ _ d anchored), ← Tree.erase_dups_filter,
    List.filter_flatMap, Selection.derived, below]

theorem items_of_nested_lists :
    let element (name : String) (attrs : Fields) : Edit := .create (.element ⟨name, attrs⟩)
    let t := Tree.new.editAll
      [element "ul" .empty, .create (.text "and"), element "li" .empty, element "ul" .empty,
        element "li" .empty, element "li" (.ofList [("class", "last")]), element "li" .empty,
        .append ⟨0⟩ ⟨1⟩, .append ⟨1⟩ ⟨2⟩, .append ⟨1⟩ ⟨3⟩, .append ⟨3⟩ ⟨4⟩, .append ⟨4⟩ ⟨5⟩,
        .append ⟨1⟩ ⟨6⟩, .append ⟨1⟩ ⟨7⟩]
    let d : Document := { id := 0, tree := t, reader := default }
    let s : Selection := ⟨0, 0, [⟨4⟩, ⟨2⟩, ⟨1⟩, ⟨3⟩], []⟩
    d.tree.WellFormed ∧
      SelectorList.parse " li:not(.last) " =
        .ok [.start none [.type "li", .pseudo (.not [.start none [.className "last"]])]] ∧
      (s.children (some " li:not(.last) ")).yields d = some [⟨5⟩, ⟨3⟩, ⟨7⟩] ∧
      (s.find (.selector ("> " ++ " li:not(.last) "))).yields d = some [⟨5⟩, ⟨3⟩, ⟨7⟩] := by
  intro element t d s
  have grown : t.WellFormed := Tree.well_formed_new.well_formed_edit_all _ (by decide +kernel)
  have formed : d.tree.WellFormed := by
    dsimp only [d]
    exact grown
  have read : SelectorList.parse " li:not(.last) " =
      .ok [.start none [.type "li", .pseudo (.not [.start none [.className "last"]])]] := by rfl
  have kept : (s.children (some " li:not(.last) ")).yields d = some [⟨5⟩, ⟨3⟩, ⟨7⟩] := by
    decide +kernel
  obtain ⟨ns, children, found⟩ := children_are_anchored_finds d formed s " li:not(.last) " _ read
  refine ⟨formed, read, kept, ?_⟩
  rw [found, ← children, kept]

end DomQuery
