import DomQuery.Proofs.Forest.Alike
import DomQuery.Proofs.Selector.Scope

set_option autoImplicit false

namespace DomQuery.Selector

mutual

-- The names of the attribute tests, however deep they are nested.
def Simple.tested : Simple → List String
  | .attribute (.present name) | .attribute (.compare name ..) => [name]
  | .pseudo cls => cls.tested
  | _ => []

def PseudoClass.tested : PseudoClass → List String
  | .not list | .is list | .has list => testedAll list
  | _ => []

def testedParts : List Simple → List String
  | [] => []
  | part :: parts => part.tested ++ testedParts parts

def Complex.tested : Complex → List String
  | .start _ compound => testedParts compound
  | .link left _ compound => left.tested ++ testedParts compound

def testedAll : List Complex → List String
  | [] => []
  | entry :: entries => entry.tested ++ testedAll entries

end

def SelectorList.tested (list : SelectorList) : List String := testedAll list

-- The attributes that are read for other conditions than attribute tests.
def readAnyway : List String := ["id", "class", "checked", "type", "selected", "disabled"]

structure SelectorList.Steady (list : SelectorList) (t t' : Tree) : Prop where
  holds : ∀ n, t.has n → list.holds t' n = list.holds t n
  holdsIn : ∀ n scope, t.has n → list.holdsIn t' scope n = list.holdsIn t scope n
  queryAll : ∀ root, t.has root → list.queryAll t' root = list.queryAll t root

theorem test_alike {seen : String → Prop} (e e' : Element) (same : Element.Alike seen e e')
    (test : AttrTest) (visible : ∀ name ∈ (Simple.attribute test).tested, seen name) :
    test.holds e' = test.holds e := by
  cases test with
  | present name => exact same.hasAttr name (visible name (List.mem_singleton_self name))
  | compare name op expected ignoreCase =>
      have value := same.attr name (visible name (List.mem_singleton_self name))
      simp only [AttrTest.holds, value]

section Alike

variable {seen : String → Prop} {t t' : Tree} (alike : t.Alike seen t') (formed : t.WellFormed)
  (n : NodeId) (known : t.has n)

include alike formed known

theorem preceding_element_alike : precedingElement? t' n = precedingElement? t n := by
  rw [precedingElement?, alike.preceding_siblings n known formed, precedingElement?,
    ← List.head?_filter, ← List.head?_filter]
  rw [List.filter_congr fun m before => alike.is_element m (formed.has_preceding n m before)]

theorem row_alike : row t' n = row t n := by
  rw [row, alike.parent n known, row]
  cases parent : t.parent n with
  | none => rfl
  | some p => exact alike.element_children p (formed.has_parent n p parent) formed

theorem type_row_alike (name : String) : typeRow t' n name = typeRow t n name := by
  rw [typeRow, alike.parent n known, row_alike alike formed n known, typeRow]
  cases parent : t.parent n with
  | none => rfl
  | some p =>
      refine List.filter_congr fun m member => ?_
      rw [row, parent] at member
      rw [alike.tag_name m (formed.has_element_child p m member)]

theorem is_hollow_alike : isHollow t' n = isHollow t n := by
  rw [isHollow, alike.children n known formed]
  refine all_alike _ _ _ fun m member => ?_
  have inside := formed.has_child m n ((formed.mem_children n m).mp member)
  rw [alike.is_element m inside, alike.text m inside]

theorem joins_alike (combinator : Combinator) (left : NodeId) :
    combinator.joins t' left n = combinator.joins t left n := by
  cases combinator with
  | descendant => exact alike.contains n known formed left
  | child => simp only [Combinator.joins, alike.parent n known]
  | nextSibling => simp only [Combinator.joins, preceding_element_alike alike formed n known]
  | subsequentSibling => simp only [Combinator.joins, alike.preceding_siblings n known formed]

theorem anchored_alike (anchor : Option Combinator) (scope : Option NodeId) :
    anchored t' anchor scope n = anchored t anchor scope n := by
  cases scope with
  | none => rfl
  | some s => exact joins_alike alike formed n known _ s

theorem left_of_alike (combinator : Combinator) : leftOf t' combinator n = leftOf t combinator n := by
  cases combinator with
  | child => simp only [leftOf, alike.parent n known]
  | descendant => exact alike.ancestors n known formed
  | nextSibling => simp only [leftOf, preceding_element_alike alike formed n known]
  | subsequentSibling =>
      rw [leftOf, alike.preceding_siblings n known formed]
      exact List.filter_congr fun m before => alike.is_element m (formed.has_preceding n m before)

theorem reach_alike (anchor : Option Combinator) : reach t' anchor n = reach t anchor n := by
  have beside : (t'.followingSiblings n).flatMap t'.subtree =
      (t.followingSiblings n).flatMap t.subtree := by
    rw [alike.following_siblings n known formed]
    refine List.flatMap_congr fun m later => ?_
    rw [Tree.subtree, alike.descendants m (formed.has_following n m later) formed, Tree.subtree]
  cases anchor with
  | none => exact alike.descendants n known formed
  | some combinator =>
      cases combinator with
      | descendant | child => exact alike.descendants n known formed
      | nextSibling | subsequentSibling => exact beside

omit alike known in
theorem has_left (combinator : Combinator) (m : NodeId) (left : m ∈ leftOf t combinator n) :
    t.has m := by
  cases combinator with
  | child => exact formed.has_parent n m (Option.mem_toList.mp left)
  | descendant => exact formed.has_ancestor m n left
  | nextSibling =>
      exact formed.has_preceding n m (List.mem_of_find?_eq_some (Option.mem_toList.mp left))
  | subsequentSibling => exact formed.has_preceding n m (List.mem_filter.mp left).1

end Alike

section Matching

variable {seen : String → Prop} {t t' : Tree} (alike : t.Alike seen t') (formed : t.WellFormed)
  (fixed : ∀ name ∈ readAnyway, seen name)

include alike formed fixed

-- The theorems use the assumptions through each other.
set_option linter.unusedSectionVars false

mutual

theorem simple_alike (n : NodeId) (known : t.has n) (e e' : Element)
    (same : Element.Alike seen e e') : (part : Simple) →
    (∀ name ∈ part.tested, seen name) → part.holds t' n e' = part.holds t n e
  | .universal, _ => rfl
  | .type name, _ => by simp only [Simple.holds, same.name]
  | .id name, _ => by simp only [Simple.holds, Element.id?, same.attr "id" (fixed _ (by decide))]
  | .className name, _ => by
      simp only [Simple.holds, Element.hasClass, Element.classes,
        same.attr "class" (fixed _ (by decide))]
  | .attribute test, visible => test_alike e e' same test visible
  | .pseudo cls, visible => pseudo_alike n known e e' same cls visible

theorem pseudo_alike (n : NodeId) (known : t.has n) (e e' : Element)
    (same : Element.Alike seen e e') : (cls : PseudoClass) →
    (∀ name ∈ cls.tested, seen name) → cls.holds t' n e' = cls.holds t n e
  | .root, _ => by
      simp only [PseudoClass.holds, alike.parent n known]
      cases parent : t.parent n with
      | none => rfl
      | some p => simp only [Option.all_some, alike.is_element p (formed.has_parent n p parent)]
  | .empty, _ => is_hollow_alike alike formed n known
  | .firstChild, _ | .lastChild, _ | .onlyChild, _ | .nthChild _, _ | .nthLastChild _, _ => by
      simp only [PseudoClass.holds, row_alike alike formed n known]
  | .firstOfType, _ | .lastOfType, _ | .onlyOfType, _ | .nthOfType _, _ | .nthLastOfType _, _ => by
      simp only [PseudoClass.holds, type_row_alike alike formed n known, same.name]
  | .checked, _ => by
      simp only [PseudoClass.holds, isChecked, same.name, same.attr "type" (fixed _ (by decide)),
        same.hasAttr "checked" (fixed _ (by decide)), same.hasAttr "selected" (fixed _ (by decide))]
  | .disabled, _ | .enabled, _ => by
      simp only [PseudoClass.holds, canBeDisabled, same.name,
        same.hasAttr "disabled" (fixed _ (by decide))]
  | .not list, visible | .is list, visible => by
      simp only [PseudoClass.holds, any_holds_alike none n known list visible]
  | .has list, visible => any_reached_alike n known list visible
  | .contains text, _ => by simp only [PseudoClass.holds, alike.text_content n known formed]

theorem all_hold_alike (n : NodeId) (known : t.has n) (e e' : Element)
    (same : Element.Alike seen e e') : (parts : List Simple) →
    (∀ name ∈ testedParts parts, seen name) → allHold t' n e' parts = allHold t n e parts
  | [], _ => rfl
  | part :: parts, visible => by
      rw [testedParts, List.forall_mem_append] at visible
      rw [allHold, simple_alike n known e e' same part visible.1,
        all_hold_alike n known e e' same parts visible.2, allHold]

theorem complex_alike (scope : Option NodeId) (n : NodeId) (known : t.has n) : (c : Complex) →
    (∀ name ∈ c.tested, seen name) → c.holds t' scope n = c.holds t scope n
  | .start anchor compound, visible => by
      rw [Complex.holds, anchored_alike alike formed n known, alike.any_element n known _ _
        fun e e' same => all_hold_alike n known e e' same compound visible, Complex.holds]
  | .link left combinator compound, visible => by
      rw [Complex.tested, List.forall_mem_append] at visible
      rw [Complex.holds, left_of_alike alike formed n known, Complex.holds,
        alike.any_element n known _ _
          fun e e' same => all_hold_alike n known e e' same compound visible.2,
        any_alike _ _ _ fun m found =>
          complex_alike scope m (has_left formed n combinator m found) left visible.1]

theorem any_holds_alike (scope : Option NodeId) (n : NodeId) (known : t.has n) :
    (list : List Complex) → (∀ name ∈ testedAll list, seen name) →
      anyHolds t' scope n list = anyHolds t scope n list
  | [], _ => rfl
  | entry :: entries, visible => by
      rw [testedAll, List.forall_mem_append] at visible
      rw [anyHolds, complex_alike scope n known entry visible.1,
        any_holds_alike scope n known entries visible.2, anyHolds]

theorem any_reached_alike (n : NodeId) (known : t.has n) : (list : List Complex) →
    (∀ name ∈ testedAll list, seen name) → anyReached t' n list = anyReached t n list
  | [], _ => rfl
  | entry :: entries, visible => by
      rw [testedAll, List.forall_mem_append] at visible
      rw [anyReached, reach_alike alike formed n known, any_alike _ _ _ fun m inside =>
          complex_alike (some n) m (has_reach formed entry.anchor n m inside) entry visible.1,
        any_reached_alike n known entries visible.2, anyReached]

end

theorem steady_of_alike (list : SelectorList) (visible : ∀ name ∈ list.tested, seen name) :
    list.Steady t t' := by
  have inScope (n scope : NodeId) (known : t.has n) :
      list.holdsIn t' scope n = list.holdsIn t scope n :=
    any_holds_alike alike formed fixed (some scope) n known list visible
  refine ⟨fun n known => any_holds_alike alike formed fixed none n known list visible, inScope,
    fun root known => ?_⟩
  rw [SelectorList.queryAll, alike.descendants root known formed]
  exact List.filter_congr fun m below => inScope m root (formed.has_descendant root m below)

end Matching

section Keeps

variable {t t' : Tree} {styled : List NodeId} (formed : t.WellFormed) (list : SelectorList)

include formed

theorem steady_of_keeps (kept : t.Keeps t' styled) (untested : "style" ∉ list.tested) :
    list.Steady t t' :=
  steady_of_alike kept.alike formed (by decide) list fun name tested same => untested (same ▸ tested)

theorem steady_of_keeps_all (kept : t.Keeps t' []) : list.Steady t t' :=
  steady_of_alike kept.alike_unstyled formed (fun _ _ => trivial) list fun _ _ => trivial

end Keeps

end DomQuery.Selector
