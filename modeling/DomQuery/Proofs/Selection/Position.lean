import DomQuery.Proofs.Selection.Extent
import DomQuery.Selection.Members

set_option autoImplicit false

namespace DomQuery

open Selector (Nth PseudoClass SelectorList place placeFromEnd row typeRow)

inductive Stands (n : NodeId) : List NodeId → Nat → Nat → Prop where
  | between (front back : List NodeId) (new : n ∉ front) :
      Stands n (front ++ n :: back) front.length back.length

namespace Stands

variable {n : NodeId} {ns : List NodeId} {before behind : Nat} (stands : Stands n ns before behind)

include stands

theorem length_eq : ns.length = before + behind + 1 := by
  cases stands with
  | between front back _ =>
      rw [List.length_append, List.length_cons]
      omega

theorem idx_of : ns.idxOf? n = some before := by
  cases stands with
  | between front back new =>
      rw [List.idxOf?_eq_some_iff]
      refine ⟨by simp, by simp, fun j earlier => ?_⟩
      rw [List.getElem_append_left earlier]
      intro same
      exact new (same ▸ List.getElem_mem earlier)

theorem place_eq : place ns n = before + 1 := by
  rw [place, stands.idx_of, Option.getD_some]

theorem place_from_end : placeFromEnd ns n = behind + 1 := by
  rw [placeFromEnd, stands.place_eq, stands.length_eq]
  omega

end Stands

theorem stands_alone (n : NodeId) : Stands n [n] 0 0 := .between [] [] List.not_mem_nil

theorem stands_kept (n : NodeId) (front back : List NodeId) (test : NodeId → Bool)
    (new : n ∉ front) (passed : test n) :
    Stands n ((front ++ n :: back).filter test) (front.countP test) (back.countP test) := by
  rw [List.filter_append, List.filter_cons_of_pos passed, List.countP_eq_length_filter,
    List.countP_eq_length_filter]
  exact .between _ _ fun member => new (List.mem_filter.mp member).1

namespace Tree

def before (t : Tree) (n : NodeId) (test : NodeId → Bool) : Nat :=
  (t.precedingSiblings n).countP test

def behind (t : Tree) (n : NodeId) (test : NodeId → Bool) : Nat :=
  (t.followingSiblings n).countP test

def hasName (t : Tree) (name : String) (n : NodeId) : Bool := t.tagName? n == some name

theorem has_name_own (t : Tree) (n : NodeId) (e : Element) (found : t.element? n = some e) :
    t.hasName e.name n := by
  rw [hasName, tagName?, found]
  exact beq_self_eq_true _

theorem is_element_of_name (t : Tree) (n : NodeId) (name : String) (named : t.hasName name n) :
    t.isElement n := by
  rw [hasName, tagName?] at named
  rw [isElement]
  cases found : t.element? n with
  | none => simp [found] at named
  | some e => rfl

theorem type_row_eq (t : Tree) (n p : NodeId) (name : String) (parent : t.parent n = some p) :
    typeRow t n name = (t.children p).filter (t.hasName name) := by
  have named (m : NodeId) : (t.hasName name m && t.isElement m) = t.hasName name m := by
    by_cases own : t.hasName name m
    · rw [own, t.is_element_of_name m name own]
      rfl
    · rw [Bool.eq_false_iff.mpr own]
      rfl
  rw [typeRow, row, parent]
  change ((t.children p).filter t.isElement).filter (t.hasName name) = _
  rw [List.filter_filter]
  simp only [named]

end Tree

-- The pseudo-classes for the places among all elements below a parent, and those for the places
-- among the elements with one name.
inductive Family where
  | child | ofType

namespace Family

def first : Family → PseudoClass
  | child => .firstChild
  | ofType => .firstOfType

def last : Family → PseudoClass
  | child => .lastChild
  | ofType => .lastOfType

def only : Family → PseudoClass
  | child => .onlyChild
  | ofType => .onlyOfType

def nth : Family → Nth → PseudoClass
  | child => .nthChild
  | ofType => .nthOfType

def nthLast : Family → Nth → PseudoClass
  | child => .nthLastChild
  | ofType => .nthLastOfType

def counts (t : Tree) (name : String) : Family → NodeId → Bool
  | child => t.isElement
  | ofType => t.hasName name

def line (t : Tree) (n : NodeId) (name : String) : Family → List NodeId
  | child => row t n
  | ofType => typeRow t n name

theorem line_root (family : Family) (t : Tree) (n : NodeId) (name : String)
    (root : t.parent n = none) : family.line t n name = [n] := by
  cases family with
  | child => rw [line, row, root]
  | ofType => rw [line, typeRow, root]

theorem line_child (family : Family) (t : Tree) (n p : NodeId) (name : String)
    (parent : t.parent n = some p) :
    family.line t n name = (t.children p).filter (family.counts t name) := by
  cases family with
  | child =>
      rw [line, row, parent]
      rfl
  | ofType =>
      rw [line, t.type_row_eq n p name parent]
      rfl

theorem counts_own (family : Family) (t : Tree) (n : NodeId) (e : Element)
    (found : t.element? n = some e) : family.counts t e.name n := by
  have named := t.has_name_own n e found
  cases family with
  | child => exact t.is_element_of_name n e.name named
  | ofType => exact named

theorem line_length (family : Family) (t : Tree) (n : NodeId) (name : String) (limit : Nat)
    (some : 1 < limit) (few : ∀ p, (t.children p).length < limit) :
    (family.line t n name).length < limit := by
  cases parent : t.parent n with
  | none =>
      rw [family.line_root t n name parent]
      exact some
  | some p =>
      rw [family.line_child t n p name parent]
      exact Nat.lt_of_le_of_lt (List.length_filter_le _ _) (few p)

end Family

namespace Tree.WellFormed

variable {t : Tree} (formed : t.WellFormed)

include formed

theorem none_beside_root (n : NodeId) (root : t.parent n = none) (test : NodeId → Bool) :
    t.before n test = 0 ∧ t.behind n test = 0 := by
  rw [before, behind, formed.preceding_root n root, formed.following_root n root]
  exact ⟨rfl, rfl⟩

theorem stands_below (n p : NodeId) (parent : t.parent n = some p) (test : NodeId → Bool)
    (passed : test n) :
    Stands n ((t.children p).filter test) (t.before n test) (t.behind n test) := by
  obtain ⟨front, back, split, preceding, following⟩ := formed.split_at_child p n parent
  have distinct := (formed.row_children p).distinct
  rw [split] at distinct
  have new : n ∉ front := fun member =>
    (List.nodup_append.mp distinct).2.2 n member n List.mem_cons_self rfl
  rw [split, before, behind, preceding, following, List.countP_reverse]
  exact stands_kept n front back test new passed

theorem stands_in_line (family : Family) (n : NodeId) (e : Element)
    (found : t.element? n = some e) :
    Stands n (family.line t n e.name) (t.before n (family.counts t e.name))
      (t.behind n (family.counts t e.name)) := by
  cases parent : t.parent n with
  | none =>
      obtain ⟨first, last⟩ := formed.none_beside_root n parent (family.counts t e.name)
      rw [family.line_root t n e.name parent, first, last]
      exact stands_alone n
  | some p =>
      rw [family.line_child t n p e.name parent]
      exact formed.stands_below n p parent _ (family.counts_own t n e found)

end Tree.WellFormed

def Selector.bare (cls : PseudoClass) : SelectorList := [.start none [.pseudo cls]]

theorem Selector.holds_bare (cls : PseudoClass) (t : Tree) (n : NodeId) (e : Element)
    (found : t.element? n = some e) : (bare cls).holds t n = cls.holds t n e := by
  simp [SelectorList.holds, bare, anyHolds, Complex.holds, found, allHold, Simple.holds, anchored]

theorem picks_iff (x : Nth) (position : Nat) (fits : position < 0x80000000) :
    x.picks position ↔ ∃ i : Int32, i.toInt = position ∧ x.holds i := by
  have exact := Int32.toInt_ofNat_of_lt fits
  rw [Nth.picks]
  constructor
  · intro picked
    exact ⟨_, exact, picked⟩
  · rintro ⟨i, same, holds⟩
    rw [← Int32.toInt_inj.mp (same.trans exact.symm)]
    exact holds

-- How the members of the family tell a node with so many others before and behind it.
structure Family.Tells (family : Family) (t : Tree) (n : NodeId) (before behind : Nat) : Prop where
  first : (Selector.bare family.first).holds t n ↔ before = 0
  last : (Selector.bare family.last).holds t n ↔ behind = 0
  only : (Selector.bare family.only).holds t n ↔ before = 0 ∧ behind = 0
  nth : ∀ x : Nth, (Selector.bare (family.nth x)).holds t n ↔
    ∃ i : Int32, i.toInt = before + 1 ∧ x.holds i
  nthLast : ∀ x : Nth, (Selector.bare (family.nthLast x)).holds t n ↔
    ∃ i : Int32, i.toInt = behind + 1 ∧ x.holds i

theorem Family.tells_of_stands (family : Family) (t : Tree) (n : NodeId) (e : Element)
    (before behind : Nat) (found : t.element? n = some e)
    (stands : Stands n (family.line t n e.name) before behind)
    (few : (family.line t n e.name).length < 0x80000000) : family.Tells t n before behind := by
  have total := stands.length_eq
  have asked (cls : PseudoClass) := Selector.holds_bare cls t n e found
  constructor
  case first =>
    have place : family.first.holds t n e = (place (family.line t n e.name) n == 1) := by
      cases family <;> rfl
    rw [asked, place, stands.place_eq, beq_iff_eq]
    omega
  case last =>
    have place : family.last.holds t n e = (placeFromEnd (family.line t n e.name) n == 1) := by
      cases family <;> rfl
    rw [asked, place, stands.place_from_end, beq_iff_eq]
    omega
  case only =>
    have alone : family.only.holds t n e = decide ((family.line t n e.name).length ≤ 1) := by
      cases family <;> rfl
    rw [asked, alone, decide_eq_true_iff]
    omega
  case nth =>
    intro x
    have place : (family.nth x).holds t n e = x.picks (place (family.line t n e.name) n) := by
      cases family <;> rfl
    rw [asked, place, stands.place_eq]
    exact picks_iff x (before + 1) (by omega)
  case nthLast =>
    intro x
    have place : (family.nthLast x).holds t n e =
        x.picks (placeFromEnd (family.line t n e.name) n) := by
      cases family <;> rfl
    rw [asked, place, stands.place_from_end]
    exact picks_iff x (behind + 1) (by omega)

theorem Selection.run_index (s : Selection) (d : Document) :
    s.index.run d = .ok (s.nodes.head?.bind d.tree.elementIndex?) d := by
  have head : s.get? 0 = s.nodes.head? := by
    rw [get?, place?, if_pos (Int.le_refl 0), Option.bind_some]
    exact List.head?_eq_getElem?.symm
  rw [index, head]
  rfl

theorem positions_agree (t : Tree) (formed : t.WellFormed)
    (few : ∀ p, (t.children p).length < 0x80000000) (n : NodeId) (e : Element)
    (found : t.element? n = some e) :
    (∀ family : Family, family.Tells t n (t.before n (family.counts t e.name))
      (t.behind n (family.counts t e.name))) ∧
    (t.parent n = none → ∀ family : Family, t.before n (family.counts t e.name) = 0 ∧
      t.behind n (family.counts t e.name) = 0) ∧
    ((t.parent n).isSome → t.elementIndex? n = some (t.before n t.isElement) ∧
      ∀ (s : Selection) (d : Document), d.tree = t → s.nodes.head? = some n →
        s.index.run d = .ok (some (t.before n t.isElement)) d) ∧
    ∀ (s : Selection) (d : Document), d.tree = t → s.nodes = [n] →
      ∃ ns, (s.prevAll none).yields d = some ns ∧ ns.length = t.before n t.isElement := by
  refine ⟨?_, ?_, ?_, ?_⟩
  · intro family
    have line := family.line_length t n e.name (0x80000000) (by decide) few
    exact family.tells_of_stands t n e _ _ found (formed.stands_in_line family n e found) line
  · intro root family
    exact formed.none_beside_root n root _
  · intro below
    obtain ⟨p, parent⟩ := Option.isSome_iff_exists.mp below
    have element := Family.child.counts_own t n e found
    have index : t.elementIndex? n = some (t.before n t.isElement) := by
      rw [Tree.elementIndex?, parent]
      exact (formed.stands_below n p parent t.isElement element).idx_of
    refine ⟨index, fun s d own head => ?_⟩
    rw [s.run_index, head, own]
    exact congrArg (EStateM.Result.ok · d) index
  · rintro s d rfl only
    have walked := Way.back.yields_alone formed s n only
    refine ⟨_, walked, ?_⟩
    exact List.countP_eq_length_filter.symm

theorem last_item_placed :
    let element (name : String) : Edit := .create (.element ⟨name, .empty⟩)
    let t := Tree.new.editAll
      [element "ul", .create (.text "and"), element "li", element "p", .create (.comment "or"),
        element "li", .create (.text "end"), .append ⟨1⟩ ⟨2⟩, .append ⟨1⟩ ⟨3⟩, .append ⟨1⟩ ⟨4⟩,
        .append ⟨1⟩ ⟨5⟩, .append ⟨1⟩ ⟨6⟩, .append ⟨1⟩ ⟨7⟩]
    let d : Document := { id := 0, tree := t, reader := default }
    let s : Selection := ⟨0, 0, [⟨6⟩], []⟩
    let odd : Nth := ⟨2, 1⟩
    t.WellFormed ∧ (∀ p, (t.children p).length < 0x80000000) ∧ t.tagName? ⟨6⟩ = some "li" ∧
      SelectorList.parse ":nth-child(odd)" = .ok (Selector.bare (.nthChild odd)) ∧
      (Selector.bare (.nthChild odd)).holds t ⟨6⟩ ∧ (Selector.bare .lastChild).holds t ⟨6⟩ ∧
      ¬(Selector.bare (.nthOfType odd)).holds t ⟨6⟩ ∧ ¬(Selector.bare .onlyOfType).holds t ⟨6⟩ ∧
      t.elementIndex? ⟨6⟩ = some 2 ∧ s.index.run d = .ok (some 2) d ∧
      ∃ ns, (s.prevAll none).yields d = some ns ∧ ns.length = 2 := by
  intro element t d s odd
  have formed : t.WellFormed := Tree.well_formed_new.well_formed_edit_all _ (by decide +kernel)
  have few (p : NodeId) : (t.children p).length < 0x80000000 :=
    Nat.lt_of_le_of_lt (Tree.row_length t p _ (formed.row_children p)) (by decide +kernel)
  have named : t.tagName? ⟨6⟩ = some "li" := by decide +kernel
  obtain ⟨e, found, name⟩ := Option.map_eq_some_iff.mp named
  have own : d.tree = t := by dsimp only [d]
  have child : t.before ⟨6⟩ (Family.child.counts t "li") = 2 ∧
      t.behind ⟨6⟩ (Family.child.counts t "li") = 0 := by decide +kernel
  have ofType : t.before ⟨6⟩ (Family.ofType.counts t "li") = 1 := by decide +kernel
  obtain ⟨tells, _, inside, walked⟩ := positions_agree t formed few ⟨6⟩ e found
  rw [name] at tells
  obtain ⟨index, run⟩ := inside (by decide +kernel)
  have children := tells .child
  have types := tells .ofType
  rw [child.1, child.2] at children
  rw [ofType] at types
  have before : t.before ⟨6⟩ t.isElement = 2 := child.1
  rw [before] at index run walked
  refine ⟨formed, few, named, by rfl, (children.nth odd).mpr ⟨3, by decide, by decide⟩,
    children.last.mpr rfl, ?_, ?_, index, run s d own rfl, walked s d own rfl⟩
  · intro picked
    obtain ⟨i, second, holds⟩ := (types.nth odd).mp picked
    rw [show i = 2 from Int32.toInt_inj.mp second] at holds
    exact absurd holds (by decide)
  · intro only
    exact absurd (types.only.mp only).1 (by decide)

end DomQuery
