import DomQuery.Proofs.Forest.Preorder
import DomQuery.Proofs.Selector.Chain
import DomQuery.Text.Basic
import Mathlib.Data.List.Infix

set_option autoImplicit false

namespace DomQuery

theorem Payload.text_none_iff (p : Payload) : p.text? = none ↔ p.type ≠ .text := by
  cases p <;> simp [text?, type]

namespace Tree

def joined (t : Tree) (ns : List NodeId) : List Char := (ns.filterMap t.text?).flatMap String.toList

theorem text_none_iff (t : Tree) (n : NodeId) : t.text? n = none ↔ t.nodeType? n ≠ some .text := by
  rw [text?, nodeType?]
  cases t.payload? n with
  | none => simp
  | some p => simpa using p.text_none_iff

theorem joined_infix (t : Tree) (ns ms : List NodeId) (within : ns <:+: ms) :
    t.joined ns <:+: t.joined ms :=
  List.IsInfix.flatMap (within.filterMap t.text?) String.toList

theorem content_of_other (t : Tree) (n : NodeId) (other : t.text? n = none) :
    (t.textContent n).toList = t.joined (t.descendants n) := by
  rw [textContent, other, Option.getD_none, String.toList_join, joined]

-- A text stands at the head of its own subtree; any other node adds nothing to what is below it.
theorem content_in_subtree (t : Tree) (n : NodeId) :
    (t.textContent n).toList <:+: t.joined (t.subtree n) := by
  cases text : t.text? n with
  | none =>
      rw [t.content_of_other n text]
      exact t.joined_infix _ _ (List.suffix_cons n _).isInfix
  | some own =>
      rw [textContent, text, Option.getD_some, joined, subtree, List.filterMap_cons_some text,
        List.flatMap_cons]
      exact (List.prefix_append _ _).isInfix

theorem WellFormed.content_infix {t : Tree} (formed : t.WellFormed) (a d : NodeId)
    (below : t.contains a d) (other : t.nodeType? a ≠ some .text) :
    (t.textContent d).toList <:+: (t.textContent a).toList := by
  rw [t.content_of_other a ((t.text_none_iff a).mpr other)]
  refine (t.content_in_subtree d).trans (t.joined_infix _ _ ?_)
  exact formed.subtree_below a d ((formed.contains_iff a d).mp below)

theorem not_text_of_element (t : Tree) (n : NodeId) (element : t.isElement n) :
    t.nodeType? n ≠ some .text := by
  rw [← text_none_iff, text?]
  obtain ⟨e, found⟩ := Option.isSome_iff_exists.mp element
  obtain ⟨p, payload, inner⟩ := Option.bind_eq_some_iff.mp found
  rw [payload, Option.bind_some]
  cases p with
  | element _ => rfl
  | _ => cases inner

end Tree

namespace Selector

theorem holds_contains_iff (t : Tree) (text : String) (n : NodeId) :
    SelectorList.holds [.start none [.pseudo (.contains text)]] t n ↔
      t.isElement n ∧ text.toList <:+: (t.textContent n).toList := by
  simp [SelectorList.holds, anyHolds, Complex.holds, allHold, Simple.holds, PseudoClass.holds,
    anchored, Option.any_eq_true, Text.occurs_in_iff, Tree.isElement, Option.isSome_iff_exists]

theorem texts_grow_upwards (t : Tree) (formed : t.WellFormed) (a d : NodeId)
    (below : t.contains a d) :
    (t.nodeType? a ≠ some .text → (t.textContent d).toList <:+: (t.textContent a).toList) ∧
      (t.isElement a → ∀ text : String,
        let list : SelectorList := [.start none [.pseudo (.contains text)]]
        list.holds t d → list.holds t a) := by
  refine ⟨formed.content_infix a d below, fun element text => ?_⟩
  simp only [holds_contains_iff]
  rintro ⟨_, inner⟩
  exact ⟨element, inner.trans (formed.content_infix a d below (t.not_text_of_element a element))⟩

theorem text_across_comment_contained :
    let element (name : String) : Edit := .create (.element ⟨name, .empty⟩)
    let text (content : String) : Edit := .create (.text content)
    let t := Tree.new.editAll
      [element "div", text "one ", element "p", text "two", text " three", .create (.comment "x"),
        text " four", .append ⟨0⟩ ⟨1⟩, .append ⟨1⟩ ⟨2⟩, .append ⟨2⟩ ⟨3⟩, .append ⟨3⟩ ⟨4⟩,
        .append ⟨4⟩ ⟨5⟩, .append ⟨3⟩ ⟨6⟩, .append ⟨6⟩ ⟨7⟩]
    let list : SelectorList := [.start none [.pseudo (.contains "o three fo")]]
    t.WellFormed ∧ t.contains ⟨1⟩ ⟨3⟩ ∧ t.nodeType? ⟨1⟩ ≠ some .text ∧ t.isElement ⟨1⟩ ∧
      list.holds t ⟨3⟩ ∧ t.textContent ⟨2⟩ = "one " ∧
      (t.textContent ⟨3⟩).toList <:+: (t.textContent ⟨1⟩).toList ∧ list.holds t ⟨1⟩ := by
  intro element text t list
  have formed : t.WellFormed := Tree.well_formed_new.well_formed_edit_all _ (by decide +kernel)
  have below : t.contains ⟨1⟩ ⟨3⟩ := by decide +kernel
  have other : t.nodeType? ⟨1⟩ ≠ some .text := by decide +kernel
  have isElement : t.isElement ⟨1⟩ := by decide +kernel
  have holds : list.holds t ⟨3⟩ := by decide +kernel
  obtain ⟨piece, upwards⟩ := texts_grow_upwards t formed ⟨1⟩ ⟨3⟩ below
  exact ⟨formed, below, other, isElement, holds, by decide +kernel, piece other,
    upwards isElement _ holds⟩

end Selector

end DomQuery
