import DomQuery.Proofs.Forest.Run
import DomQuery.Selector.Semantics

set_option autoImplicit false

namespace DomQuery.Selector

def Combinator.Relates (t : Tree) (left right : NodeId) : Combinator → Prop
  | .descendant => Relation.TransGen (fun a b => t.parent a = some b) right left
  | .child => t.parent right = some left
  | .nextSibling => t.isElement left ∧ t.SiblingBefore left right ∧
      ∀ m, t.SiblingBefore left m → t.SiblingBefore m right → ¬ t.isElement m
  | .subsequentSibling => t.SiblingBefore left right

def Meets (t : Tree) (n : NodeId) (compound : Compound) : Prop :=
  ∃ e, t.element? n = some e ∧ ∀ part ∈ compound, part.holds t n e

def AnchoredAt (t : Tree) (anchor : Option Combinator) (scope : Option NodeId) (n : NodeId) : Prop :=
  match scope with
  | some s => (anchor.getD .descendant).Relates t s n
  | none => anchor = none

-- The elements that the compounds of a selector stand for, from left to right.
structure Chain (t : Tree) (scope : Option NodeId) (c : Complex) (es : List NodeId) : Prop where
  length : es.length = c.compounds.length
  meets : ∀ (i : Nat) (n : NodeId) (compound : Compound),
    es[i]? = some n → c.compounds[i]? = some compound → Meets t n compound
  related : ∀ (i : Nat) (left right : NodeId) (combinator : Combinator),
    es[i]? = some left → es[i + 1]? = some right → c.combinators[i]? = some combinator →
      combinator.Relates t left right
  anchored : ∀ n, es.head? = some n → AnchoredAt t c.anchor scope n

theorem all_hold_iff (t : Tree) (n : NodeId) (e : Element) (compound : Compound) :
    allHold t n e compound ↔ ∀ part ∈ compound, part.holds t n e := by
  induction compound with
  | nil => simp [allHold]
  | cons part parts ih => simp [allHold, ih]

theorem any_holds_iff (t : Tree) (scope : Option NodeId) (n : NodeId) (list : List Complex) :
    anyHolds t scope n list ↔ ∃ c ∈ list, c.holds t scope n := by
  induction list with
  | nil => simp [anyHolds]
  | cons entry entries ih => simp [anyHolds, ih]

theorem meets_iff (t : Tree) (n : NodeId) (compound : Compound) :
    (t.element? n).any (allHold t n · compound) ↔ Meets t n compound := by
  simp only [Meets, Option.any_eq_true, all_hold_iff]

theorem Meets.is_element (t : Tree) (n : NodeId) (compound : Compound)
    (meets : Meets t n compound) : t.isElement n := by
  obtain ⟨e, found, _⟩ := meets
  simp [Tree.isElement, found]

theorem Complex.is_element_of_holds (t : Tree) (scope : Option NodeId) (c : Complex) (n : NodeId)
    (holds : c.holds t scope n) : t.isElement n := by
  cases c with
  | start anchor compound =>
      rw [Complex.holds, Bool.and_eq_true, meets_iff] at holds
      exact holds.1.is_element
  | link left combinator compound =>
      rw [Complex.holds, Bool.and_eq_true, meets_iff] at holds
      exact holds.1.is_element

section Relations

variable {t : Tree} (formed : t.WellFormed) (left right : NodeId)

include formed

theorem preceding_element_iff :
    precedingElement? t right = some left ↔ Combinator.nextSibling.Relates t left right := by
  rw [precedingElement?, List.find?_eq_some_iff_append, Combinator.Relates]
  refine and_congr_right fun _ => ?_
  constructor
  · rintro ⟨nearer, farther, split, passed⟩
    refine ⟨(formed.mem_preceding left right).mp (by simp [split]), fun m behind before => ?_⟩
    have near := (formed.between_iff left right m nearer farther split).mpr ⟨behind, before⟩
    simpa using passed m near
  · rintro ⟨before, none⟩
    obtain ⟨nearer, farther, split⟩ :=
      List.append_of_mem ((formed.mem_preceding left right).mpr before)
    refine ⟨nearer, farther, split, fun m near => ?_⟩
    obtain ⟨behind, ahead⟩ := (formed.between_iff left right m nearer farther split).mp near
    simpa using none m behind ahead

theorem joins_iff (combinator : Combinator) :
    combinator.joins t left right ↔ combinator.Relates t left right := by
  cases combinator with
  | descendant =>
      rw [Combinator.joins, formed.contains_iff, formed.mem_ancestors]
      rfl
  | child => simp [Combinator.joins, Combinator.Relates]
  | nextSibling =>
      rw [Combinator.joins, beq_iff_eq, preceding_element_iff formed]
  | subsequentSibling =>
      rw [Combinator.joins, List.contains_iff_mem, formed.mem_preceding]
      rfl

theorem mem_left_of (combinator : Combinator) (element : t.isElement left) :
    left ∈ leftOf t combinator right ↔ combinator.Relates t left right := by
  cases combinator with
  | descendant => exact formed.mem_ancestors left right
  | child => simp [leftOf, Combinator.Relates]
  | nextSibling =>
      rw [leftOf, Option.mem_toList, preceding_element_iff formed]
  | subsequentSibling =>
      rw [leftOf, List.mem_filter, formed.mem_preceding]
      exact and_iff_left element

theorem anchored_iff (anchor : Option Combinator) (scope : Option NodeId) (n : NodeId) :
    anchored t anchor scope n ↔ AnchoredAt t anchor scope n := by
  cases scope with
  | none => simp [anchored, AnchoredAt]
  | some s => exact joins_iff formed s n (anchor.getD .descendant)

end Relations

theorem chain_start (t : Tree) (scope : Option NodeId) (anchor : Option Combinator)
    (compound : Compound) (n : NodeId) :
    Chain t scope (.start anchor compound) [n] ↔
      Meets t n compound ∧ AnchoredAt t anchor scope n := by
  constructor
  · intro chain
    exact ⟨chain.meets 0 n compound rfl rfl, chain.anchored n rfl⟩
  · rintro ⟨meets, anchored⟩
    refine ⟨rfl, fun i m other found place => ?_, fun i m k combinator _ next _ => ?_, ?_⟩
    · cases i with
      | zero =>
          cases Option.some.inj found
          cases Option.some.inj place
          exact meets
      | succ i => simp at found
    · simp at next
    · intro m first
      cases Option.some.inj first
      exact anchored

theorem found_in_grown {α : Type} (xs : List α) (x y : α) (i : Nat) :
    (xs ++ [x])[i]? = some y ↔ xs[i]? = some y ∨ i = xs.length ∧ x = y := by
  rcases Nat.lt_or_ge i xs.length with inside | beyond
  · rw [List.getElem?_append_left inside]
    exact (or_iff_left fun last => Nat.ne_of_lt inside last.1).symm
  · rw [List.getElem?_append_right beyond, List.getElem?_eq_none beyond, List.getElem?_singleton]
    simp only [reduceCtorEq, false_or, Option.ite_none_right_eq_some, Option.some.injEq]
    exact and_congr_left fun _ => ⟨fun none => by omega, fun last => by omega⟩

section Link

variable {t : Tree} {scope : Option NodeId} {left : Complex} {combinator : Combinator}
  {compound : Compound} {es : List NodeId} {n : NodeId}

theorem chain_front (chain : Chain t scope (.link left combinator compound) (es ++ [n])) :
    Chain t scope left es ∧ (∃ m, es.getLast? = some m ∧ combinator.Relates t m n) ∧
      Meets t n compound := by
  have length : es.length = left.compounds.length := by
    simpa [Complex.compounds] using chain.length
  have places : es.length = left.combinators.length + 1 := length.trans left.length_compounds
  refine ⟨⟨length, ?_, ?_, ?_⟩, ?_, ?_⟩
  · intro i m other found place
    exact chain.meets i m other ((found_in_grown es n m i).mpr (Or.inl found))
      ((found_in_grown left.compounds compound other i).mpr (Or.inl place))
  · intro i m k between found next place
    exact chain.related i m k between ((found_in_grown es n m i).mpr (Or.inl found))
      ((found_in_grown es n k (i + 1)).mpr (Or.inl next))
      ((found_in_grown left.combinators combinator between i).mpr (Or.inl place))
  · intro m first
    refine chain.anchored m ?_
    rw [List.head?_append, first, Option.some_or]
  · have bound : left.combinators.length < es.length := by omega
    have last : es[left.combinators.length]? = some es[left.combinators.length] :=
      List.getElem?_eq_getElem bound
    refine ⟨es[left.combinators.length], ?_, ?_⟩
    · rw [List.getLast?_eq_getElem?, places, Nat.add_sub_cancel, last]
    · exact chain.related left.combinators.length _ n combinator
        ((found_in_grown es n _ _).mpr (Or.inl last))
        ((found_in_grown es n n _).mpr (Or.inr ⟨places.symm, rfl⟩))
        ((found_in_grown left.combinators combinator _ _).mpr (Or.inr ⟨rfl, rfl⟩))
  · exact chain.meets es.length n compound
      ((found_in_grown es n n _).mpr (Or.inr ⟨rfl, rfl⟩))
      ((found_in_grown left.compounds compound _ _).mpr (Or.inr ⟨length, rfl⟩))

theorem chain_grown (chain : Chain t scope left es)
    (linked : ∃ m, es.getLast? = some m ∧ combinator.Relates t m n) (meets : Meets t n compound) :
    Chain t scope (.link left combinator compound) (es ++ [n]) := by
  obtain ⟨last, ends, related⟩ := linked
  have length := chain.length
  have places : es.length = left.combinators.length + 1 := length.trans left.length_compounds
  constructor
  case length => simp [Complex.compounds, length]
  case meets =>
    intro i m other found place
    rw [Complex.compounds] at place
    rcases (found_in_grown es n m i).mp found with old | ⟨here, rfl⟩
    · have inside := (List.getElem?_eq_some_iff.mp old).1
      rw [List.getElem?_append_left (length ▸ inside)] at place
      exact chain.meets i m other old place
    · rw [here, length, List.getElem?_concat_length] at place
      cases Option.some.inj place
      exact meets
  case related =>
    intro i m k between found next place
    rw [Complex.combinators] at place
    rcases (found_in_grown es n k (i + 1)).mp next with old | ⟨here, rfl⟩
    · have inside := (List.getElem?_eq_some_iff.mp old).1
      rw [List.getElem?_append_left (Nat.lt_of_succ_lt inside)] at found
      rw [List.getElem?_append_left (by omega)] at place
      exact chain.related i m k between found old place
    · have atLast : i = left.combinators.length := by omega
      rw [List.getElem?_append_left (by omega)] at found
      rw [atLast, List.getElem?_concat_length] at place
      rw [List.getLast?_eq_getElem?, ← here, Nat.add_sub_cancel, found] at ends
      cases Option.some.inj place
      cases Option.some.inj ends
      exact related
  case anchored =>
    intro m first
    refine chain.anchored m ?_
    cases es with
    | nil => simp at places
    | cons k es => exact first

-- A chain for a longer selector is one for its left part and one element more.
theorem chain_link : Chain t scope (.link left combinator compound) (es ++ [n]) ↔
    Chain t scope left es ∧ (∃ m, es.getLast? = some m ∧ combinator.Relates t m n) ∧
      Meets t n compound :=
  ⟨chain_front, fun ⟨chain, linked, meets⟩ => chain_grown chain linked meets⟩

end Link

section Matching

variable {t : Tree} (formed : t.WellFormed) (scope : Option NodeId)

include formed

theorem holds_start (anchor : Option Combinator) (compound : Compound) (n : NodeId) :
    (Complex.start anchor compound).holds t scope n ↔
      Meets t n compound ∧ AnchoredAt t anchor scope n := by
  rw [Complex.holds, Bool.and_eq_true, meets_iff, anchored_iff formed]

theorem holds_link (left : Complex) (combinator : Combinator) (compound : Compound) (n : NodeId) :
    (Complex.link left combinator compound).holds t scope n ↔
      Meets t n compound ∧ ∃ m, combinator.Relates t m n ∧ left.holds t scope m := by
  rw [Complex.holds, Bool.and_eq_true, meets_iff, List.any_eq_true]
  refine and_congr_right fun _ => exists_congr fun m => and_congr_left fun holds => ?_
  exact mem_left_of formed m n combinator (left.is_element_of_holds t scope m holds)

theorem chain_of_holds : (c : Complex) → (n : NodeId) → c.holds t scope n →
    ∃ es, Chain t scope c es ∧ es.getLast? = some n
  | .start anchor compound, n, holds =>
      ⟨[n], (chain_start t scope anchor compound n).mpr
        ((holds_start formed scope anchor compound n).mp holds), rfl⟩
  | .link left combinator compound, n, holds => by
      obtain ⟨meets, m, related, before⟩ :=
        (holds_link formed scope left combinator compound n).mp holds
      obtain ⟨es, chain, last⟩ := chain_of_holds left m before
      refine ⟨es ++ [n], ?_, List.getLast?_concat⟩
      exact chain_link.mpr ⟨chain, ⟨m, last, related⟩, meets⟩

theorem holds_of_chain : (c : Complex) → (n : NodeId) → (es : List NodeId) →
    Chain t scope c es → es.getLast? = some n → c.holds t scope n
  | .start anchor compound, n, es, chain, last => by
      have single : es = [n] := by
        obtain ⟨m, only⟩ := List.length_eq_one_iff.mp chain.length
        rw [only] at last ⊢
        simpa using last
      rw [single] at chain
      exact (holds_start formed scope anchor compound n).mpr
        ((chain_start t scope anchor compound n).mp chain)
  | .link left combinator compound, n, es, chain, last => by
      obtain ⟨front, split⟩ := List.getLast?_eq_some_iff.mp last
      rw [split] at chain
      obtain ⟨before, ⟨m, ends, related⟩, meets⟩ := chain_link.mp chain
      exact (holds_link formed scope left combinator compound n).mpr
        ⟨meets, m, related, holds_of_chain left m front before ends⟩

end Matching

theorem matching_finds_chain (t : Tree) (formed : t.WellFormed) (c : Complex)
    (scope : Option NodeId) (n : NodeId) :
    c.holds t scope n ↔ ∃ es, Chain t scope c es ∧ es.getLast? = some n :=
  ⟨chain_of_holds formed scope c n,
    fun ⟨es, chain, last⟩ => holds_of_chain formed scope c n es chain last⟩

-- The `y` next above the `z` has the wrong parent; matching goes on to the one above it.
theorem farther_ancestor_found :
    let element (name : String) : Edit := .create (.element ⟨name, .empty⟩)
    let t := Tree.new.editAll
      [element "x", element "y", element "q", element "y", element "z",
        .append ⟨0⟩ ⟨1⟩, .append ⟨1⟩ ⟨2⟩, .append ⟨2⟩ ⟨3⟩, .append ⟨3⟩ ⟨4⟩, .append ⟨4⟩ ⟨5⟩]
    let c : Complex :=
      .link (.link (.start none [.type "x"]) .child [.type "y"]) .descendant [.type "z"]
    t.WellFormed ∧ c.holds t none ⟨5⟩ ∧ ∃ es, Chain t none c es ∧ es.getLast? = some ⟨5⟩ := by
  intro element t c
  have formed : t.WellFormed := Tree.well_formed_new.well_formed_edit_all _ (by decide +kernel)
  have holds : c.holds t none ⟨5⟩ := by decide +kernel
  exact ⟨formed, holds, (matching_finds_chain t formed c none ⟨5⟩).mp holds⟩

end DomQuery.Selector
