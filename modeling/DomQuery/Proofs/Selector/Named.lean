import DomQuery.Markup.Source
import DomQuery.Proofs.Selector.Composed
import DomQuery.Selector.Semantics

set_option autoImplicit false

namespace DomQuery.Selector

-- The name in brackets, with a backslash in front of every character.
def byName (name : String) : String := "[" ++ .ofList (escaped name.toList) ++ "]"

def carrying (name : String) : SelectorList := [.start none [.attribute (.present name)]]

theorem attr_test_escaped (word : List Char) (nonempty : word ≠ []) :
    attrTest (escaped word ++ [']']) = .ok (.present (lowerAscii word), []) :=
  attr_test_named word [']'] nonempty rfl

theorem parse_by_name (name : String) (nonempty : name ≠ "") :
    SelectorList.parse (byName name) = .ok (carrying (lowerAscii name.toList)) := by
  have tested := attr_test_escaped name.toList (by simpa using nonempty)
  have text : (byName name).toList = '[' :: (escaped name.toList ++ [']']) := by simp [byName]
  rw [SelectorList.parse, text]
  apply (parse_single_iff false _ _).mpr
  refine ⟨none, _, _, [], rfl, condition_alone '[' _ _ rfl ?_, .done _ _ _ rfl⟩
  simp only [condition?, tested, Except.map]

theorem holds_carrying (name : String) (t : Tree) (n : NodeId) (e : Element)
    (found : t.element? n = some e) : (carrying name).holds t n ↔ e.hasAttr name := by
  simp [SelectorList.holds, carrying, anyHolds, Complex.holds, found, allHold, Simple.holds,
    AttrTest.holds, anchored]

theorem has_only_attr (tag name other : String) :
    (({ name := tag } : Element).setAttr name "").hasAttr other ↔ other = name := by
  rw [Element.hasAttr, Element.setAttr, Fields.contains, Fields.get_insert]
  by_cases same : other = name
  · simp [same]
  · simp [same, Fields.empty, Fields.get?]

theorem small_iff_same (name : String) : Small name ↔ lowerAscii name.toList = name := by
  constructor
  · exact lower_ascii_small name
  · intro same
    rw [← same]
    exact small_lower name.toList

theorem names_find_attributes (name : String) (nonempty : name ≠ "") :
    ∃ list, SelectorList.parse (byName name) = .ok list ∧
      (∀ t n e, t.element? n = some e → (list.holds t n ↔ e.hasAttr (lowerAscii name.toList))) ∧
      ((∀ t n e, t.element? n = some e → e.hasAttr name → list.holds t n) ↔ Small name) := by
  refine ⟨_, parse_by_name name nonempty, holds_carrying _, ?_⟩
  constructor
  · intro always
    let e := ({ name := "p" } : Element).setAttr name ""
    have found : (Tree.new.push (.element e)).element? ⟨1⟩ = some e := rfl
    have matched := always _ _ e found ((has_only_attr "p" name name).mpr rfl)
    have same := (has_only_attr "p" name _).mp ((holds_carrying _ _ _ e found).mp matched)
    exact (small_iff_same name).mpr same
  · intro small t n e found present
    rw [holds_carrying _ t n e found, lower_ascii_small name small]
    exact present

theorem spelled_attribute_found :
    let name := "data-größe:x"
    let t := Markup.plant {} [.element "p" [(name, "")] []]
    name ≠ "" ∧ (t.element? ⟨1⟩).map (·.hasAttr name) = some true ∧ Small name ∧
      ∃ list, SelectorList.parse (byName name) = .ok list ∧ list.holds t ⟨1⟩ := by
  intro name t
  have nonempty : name ≠ "" := by decide
  have small : Small name := by simp [Small, name]
  have stored : (t.element? ⟨1⟩).map (·.hasAttr name) = some true := by decide +kernel
  obtain ⟨e, found, present⟩ := Option.map_eq_some_iff.mp stored
  obtain ⟨list, read, _, always⟩ := names_find_attributes name nonempty
  exact ⟨nonempty, stored, small, list, read, always.mpr small t ⟨1⟩ e found present⟩

-- The frame of a drawing has a capital in its name, which the markup keeps.
theorem frame_not_found :
    let t := Markup.plant {} [.element "svg" [("viewBox", "0 0 8 8")] []]
    (t.element? ⟨1⟩).map (·.hasAttr "viewBox") = some true ∧
      ∃ list, SelectorList.parse (byName "viewBox") = .ok list ∧ ¬ list.holds t ⟨1⟩ := by
  intro t
  have stored : (t.element? ⟨1⟩).map (·.hasAttr "viewBox") = some true := by decide +kernel
  have missing : (carrying "viewbox").holds t ⟨1⟩ = false := by decide +kernel
  refine ⟨stored, carrying "viewbox", parse_by_name "viewBox" (by decide), ?_⟩
  simp [missing]

end DomQuery.Selector
