import DomQuery.Proofs.Selection.Find
import DomQuery.Proofs.Selector.Unanchored
import DomQuery.Selection.Members

set_option autoImplicit false

namespace DomQuery

open Selector (SelectorList)

section Lists

variable {t : Tree} (formed : t.WellFormed) (list : SelectorList) (free : ∀ c ∈ list, c.anchor = none)

include formed free

theorem holds_of_holds_in (s n : NodeId) (holds : list.holdsIn t s n) : list.holds t n := by
  obtain ⟨c, member, matched⟩ := (Selector.any_holds_iff t _ n list).mp holds
  exact (Selector.any_holds_iff t _ n list).mpr
    ⟨c, member, Selector.holds_unscoped formed s c n (free c member) matched⟩

theorem holds_iff_holds_in (s n : NodeId) (root : t.parent s = none) (bare : ¬t.isElement s)
    (above : t.contains s n) : list.holds t n ↔ list.holdsIn t s n := by
  refine ⟨fun holds => ?_, holds_of_holds_in formed list free s n⟩
  obtain ⟨c, member, matched⟩ := (Selector.any_holds_iff t _ n list).mp holds
  have below := (formed.mem_subtree s n).mpr (Or.inr ((formed.contains_iff s n).mp above))
  exact (Selector.any_holds_iff t _ n list).mpr ⟨c, member, Selector.holds_at_root formed s bare c n
    (free c member) (formed.root_of_mem s n root below) matched⟩

theorem query_root (s : NodeId) (root : t.parent s = none) (bare : ¬t.isElement s) :
    list.queryAll t s = (t.descendants s).filter (list.holds t) := by
  refine List.filter_congr fun n below => Bool.eq_iff_iff.mpr ?_
  have above := (formed.contains_iff s n).mpr ((formed.mem_descendants s n).mp below)
  exact (holds_iff_holds_in formed list free s n root bare above).symm

end Lists

theorem Selection.keep_map (s : Selection) (f : NodeId → Bool) :
    s.keep (s.nodes.map f) true = s.nodes.filter f := by
  rw [keep]
  induction s.nodes with
  | nil => rfl
  | cons n ns ih => by_cases holds : f n <;> simpa [holds] using ih

theorem run_filter_text (s : Selection) (d : Document) (text : String) (list : SelectorList)
    (read : SelectorList.parse text = .ok list) :
    (s.filter (.ofText text)).run d =
      .ok (s.derived d (s.nodes.filter (list.holds d.tree))) d.next := by
  have answers : s.tests "filter" (.ofText text) d = .ok (s.nodes.map (list.holds d.tree)) := by
    rw [Criterion.ofText, Operand.ofText, Selector.no_markup_of_parse text list read,
      if_neg Bool.false_ne_true, Selection.tests, Lookup.selector, read]
    rfl
  rw [Selection.run_filter, answers, ← Selection.keep_map]

-- A scope that no compound of the selector can stand for changes nothing, and such is the document:
-- no edit of a new tree makes it an element.
theorem scoping_is_monotone (t : Tree) (formed : t.WellFormed) :
    (∀ list : SelectorList, (∀ c ∈ list, c.anchor = none) →
      (∀ n outer inner, t.contains outer inner → list.holdsIn t inner n → list.holdsIn t outer n) ∧
      (∀ n s, list.holdsIn t s n → list.holds t n) ∧
      ∀ n s, t.parent s = none → ¬t.isElement s → t.contains s n →
        (list.holds t n ↔ list.holdsIn t s n)) ∧
    ∀ (d : Document) (text : String) (list : SelectorList), d.tree = t →
      t.parent .document = none → ¬t.isElement .document → SelectorList.parse text = .ok list →
        (Document.select text).yields d = some ((t.descendants .document).filter (list.holds t)) ∧
        (Document.select text >>= fun s => s.filter (.ofText text)).yields d =
          (Document.select text).yields d := by
  refine ⟨fun list free => ⟨fun n outer inner => holds_in_wider formed list free outer inner n,
    fun n s => holds_of_holds_in formed list free s n,
    fun n s => holds_iff_holds_in formed list free s n⟩, ?_⟩
  rintro d text list rfl root bare read
  have selected := run_select text list d (Selector.parse_relative_of_parse text list read)
  rw [query_root formed list (Selector.free_of_parse text list read) .document root bare] at selected
  have yielded := DocumentM.yields_of_run _ _ _ _ selected
  refine ⟨yielded, ?_⟩
  rw [DocumentM.yields_bind _ _ _ _ _ selected, yielded,
    DocumentM.yields_of_run _ _ _ _ (run_filter_text _ _ text list read)]
  simp [Selection.derived, Document.next, List.filter_filter]

theorem emphasis_in_divisions :
    let element (name : String) : Edit := .create (.element ⟨name, .empty⟩)
    let t := Tree.new.editAll
      [element "div", element "div", element "div", element "em", .append ⟨0⟩ ⟨1⟩, .append ⟨1⟩ ⟨2⟩,
        .append ⟨2⟩ ⟨3⟩, .append ⟨3⟩ ⟨4⟩]
    let d : Document := { id := 0, tree := t, reader := default }
    let list : SelectorList := [.link (.start none [.type "div"]) .child [.type "em"]]
    ¬list.holdsIn t ⟨3⟩ ⟨4⟩ ∧ list.holdsIn t ⟨2⟩ ⟨4⟩ ∧ list.holdsIn t ⟨1⟩ ⟨4⟩ ∧ list.holds t ⟨4⟩ ∧
      list.holdsIn t ⟨0⟩ ⟨4⟩ ∧ (Document.select "div > em").yields d = some [⟨4⟩] ∧
      (Document.select "div > em" >>= fun s => s.filter (.ofText "div > em")).yields d =
        some [⟨4⟩] := by
  intro element t d list
  have formed : t.WellFormed := Tree.well_formed_new.well_formed_edit_all _ (by decide +kernel)
  have root : t.parent .document = none := by decide +kernel
  have bare : ¬t.isElement .document := Tree.document_bare _
  have inner : list.holdsIn t ⟨2⟩ ⟨4⟩ := by decide +kernel
  obtain ⟨scoping, selecting⟩ := scoping_is_monotone t formed
  obtain ⟨wider, plain, atRoot⟩ := scoping list (by simp [list, Selector.Complex.anchor])
  obtain ⟨selected, again⟩ := selecting d "div > em" list (by dsimp only [d]) root bare rfl
  have holds := plain ⟨4⟩ ⟨2⟩ inner
  have found : (Document.select "div > em").yields d = some [⟨4⟩] :=
    selected.trans (congrArg some (by decide +kernel))
  refine ⟨by decide +kernel, inner, wider ⟨4⟩ ⟨1⟩ ⟨2⟩ (by decide +kernel) inner, holds, ?_, found,
    again.trans found⟩
  exact (atRoot ⟨4⟩ ⟨0⟩ root bare (by decide +kernel)).mp holds

end DomQuery
