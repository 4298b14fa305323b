import DomQuery.Selection.Basic
import DomQuery.Proofs.Forest.Order
import DomQuery.Proofs.Selector.Scope
import DomQuery.Proofs.Selector.Shape
import DomQuery.Proofs.Text.Trim

set_option autoImplicit false

namespace DomQuery.Selector

section Texts

variable {nested : Bool → List Char → Reading (SelectorList × List Char)}

theorem anchor_relative (cs rest : List Char) (found : Option Combinator)
    (read : anchor false cs = .ok (found, rest)) : anchor true cs = .ok (found, rest) := by
  cases cs with
  | nil => exact read
  | cons c cs =>
      cases mark : Combinator.ofMark? c with
      | none => simpa [anchor, mark] using read
      | some combinator => simp [anchor, mark] at read

theorem complex_relative (cs rest : List Char) (entry : Complex)
    (read : complex nested false cs = .ok (entry, rest)) :
    complex nested true cs = .ok (entry, rest) := by
  obtain ⟨⟨lead, begun⟩, anchored, later⟩ := ok_of_bind read
  rw [complex, anchor_relative cs begun lead anchored]
  exact later

theorem entries_relative (inner : Bool) (steps : Nat) (cs rest : List Char) (list : SelectorList)
    (read : entries nested false inner steps cs = .ok (list, rest)) :
    entries nested true inner steps cs = .ok (list, rest) := by
  induction steps generalizing cs list with
  | zero => cases read
  | succ steps ih =>
      obtain ⟨entry, middle, first, later⟩ := (entries_iff _ _ _ _ _ _).mp read
      refine (entries_iff _ _ _ _ _ _).mpr ⟨entry, middle, complex_relative _ _ _ first, ?_⟩
      rcases later with last | ⟨behind, others, whole, comma, further⟩
      · exact Or.inl last
      · exact Or.inr ⟨behind, others, whole, comma, ih behind others further⟩

theorem complex_begins (relative : Bool) (cs rest : List Char) (entry : Complex)
    (read : complex nested relative cs = .ok (entry, rest)) : cs.head? ≠ some '<' := by
  intro opens
  cases cs with
  | nil => cases opens
  | cons c cs =>
      cases Option.some.inj opens
      obtain ⟨⟨lead, begun⟩, anchored, later⟩ := ok_of_bind read
      obtain ⟨rfl, rfl⟩ := Prod.mk.inj (Except.ok.inj anchored)
      obtain ⟨⟨parts, behind⟩, first, _⟩ := ok_of_bind later
      exact compound_needs '<' cs behind parts (by decide) first

end Texts

theorem parse_relative_of_parse (text : String) (list : SelectorList)
    (read : SelectorList.parse text = .ok list) : SelectorList.parseRelative text = .ok list := by
  obtain ⟨visible, rest, entered⟩ := (parse_chars_iff false _ list).mp read
  exact (parse_chars_iff true _ list).mpr
    ⟨visible, rest, entries_relative false _ _ rest list entered⟩

theorem no_markup_of_parse (text : String) (list : SelectorList)
    (read : SelectorList.parse text = .ok list) : Markup.isMarkup text = false := by
  obtain ⟨visible, rest, entered⟩ := (parse_chars_iff false _ list).mp read
  obtain ⟨entry, middle, first, _⟩ := (entries_iff _ _ _ _ _ _).mp entered
  have begins := complex_begins false _ middle entry first
  rw [Markup.isMarkup]
  split
  · next c cs trimmed => exact absurd (Text.head_of_trim_end _ _ '<' trimmed) begins
  · rfl

theorem free_of_parse (text : String) (list : SelectorList)
    (read : SelectorList.parse text = .ok list) : ∀ c ∈ list, c.anchor = none := by
  intro c member
  obtain ⟨_, _, _, each⟩ := parse_chars_shape false text.toList list read
  obtain ⟨_, _, anchored, _, _⟩ := each c member
  cases lead : c.anchor with
  | none => rfl
  | some combinator => cases (anchored combinator lead).1

theorem Continues.of_start {nested : Bool → List Char → Reading (SelectorList × List Char)}
    {left final : Complex} {cs rest : List Char} (continues : Continues nested left cs final rest)
    (lead : Option Combinator) (parts : Compound) (single : final = .start lead parts) :
    left = .start lead parts ∧ separator cs = .ok (none, rest) := by
  induction continues with
  | done left cs rest ends => exact ⟨single, ends⟩
  | link _ _ _ _ _ _ _ _ _ _ _ ih => cases (ih single).1

-- The mark in front takes the place of the missing anchor.
theorem parse_child_of_parse (text : String) (parts : Compound)
    (read : SelectorList.parse text = .ok [.start none parts]) :
    SelectorList.parseRelative ("> " ++ text) = .ok [.start (some .child) parts] := by
  have marked : ("> " ++ text).toList = '>' :: ' ' :: text.toList := by simp
  obtain ⟨lead, begun, first, behind, anchored, joined, continues⟩ :=
    (parse_single_iff false text.toList _).mp read
  obtain ⟨same, ends⟩ := continues.of_start none parts rfl
  obtain ⟨rfl, rfl⟩ := Complex.start.inj same
  obtain ⟨rfl, _⟩ := anchor_free _ _ (anchor_relative _ begun none anchored)
  have deeper := list_at_carries text.toList.length ('>' :: ' ' :: text.toList).length
    (Nat.le_add_right _ 2)
  rw [SelectorList.parseRelative, marked]
  refine (parse_single_iff true _ _).mpr
    ⟨some .child, skipBlank text.toList, first, behind, rfl, ?_, .done _ behind [] ends⟩
  exact (compound_carries deeper).same _ behind first joined

section Scopes

variable {t : Tree} (formed : t.WellFormed)

include formed

-- No combinator leads from one tree of the arena to another.
theorem root_of_relates (combinator : Combinator) (m n : NodeId)
    (related : combinator.Relates t m n) : t.rootOf m = t.rootOf n := by
  rcases relates_cases t combinator m n related with down | beside
  · obtain ⟨root, below⟩ := formed.below_root m
    refine (formed.root_of_mem (t.rootOf m) n root ((formed.mem_subtree _ n).mpr (Or.inr ?_))).symm
    have above := (formed.mem_ancestors m n).mpr down
    rcases (formed.mem_subtree _ m).mp below with here | higher
    · rwa [← here]
    · exact formed.ancestors_trans _ m n higher above
  · have found := (formed.mem_following m n).mpr beside
    obtain ⟨p, parentM, parentN⟩ := formed.parent_of_following m n found
    rw [formed.root_of_child m p parentM, formed.root_of_child n p parentN]

theorem holds_unscoped (s : NodeId) : (c : Complex) → (n : NodeId) → c.anchor = none →
    c.holds t (some s) n → c.holds t none n
  | .start anchor compound, n, free, holds =>
      (holds_start formed none anchor compound n).mpr
        ⟨((holds_start formed (some s) anchor compound n).mp holds).1, free⟩
  | .link left combinator compound, n, free, holds => by
      obtain ⟨meets, m, related, before⟩ := (holds_link formed _ left combinator compound n).mp holds
      exact (holds_link formed _ left combinator compound n).mpr
        ⟨meets, m, related, holds_unscoped s left m free before⟩

theorem holds_at_root (s : NodeId) (bare : ¬t.isElement s) : (c : Complex) → (n : NodeId) →
    c.anchor = none → t.rootOf n = s → c.holds t none n → c.holds t (some s) n
  | .start anchor compound, n, free, root, holds => by
      obtain ⟨meets, _⟩ := (holds_start formed none anchor compound n).mp holds
      cases show anchor = none from free
      refine (holds_start formed (some s) none compound n).mpr ⟨meets, ?_⟩
      rcases (formed.mem_subtree _ n).mp (formed.below_root n).2 with here | above
      · exact absurd meets.is_element (by rwa [here, root])
      · rw [root] at above
        exact (formed.mem_ancestors s n).mp above
  | .link left combinator compound, n, free, root, holds => by
      obtain ⟨meets, m, related, before⟩ := (holds_link formed _ left combinator compound n).mp holds
      have same := (root_of_relates formed combinator m n related).trans root
      exact (holds_link formed _ left combinator compound n).mpr
        ⟨meets, m, related, holds_at_root s bare left m free same before⟩

end Scopes

end DomQuery.Selector
