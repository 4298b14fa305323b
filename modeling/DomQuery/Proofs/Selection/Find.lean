import DomQuery.Proofs.Selection.Outcome
import DomQuery.Proofs.Selector.Scope

set_option autoImplicit false

namespace DomQuery

namespace Tree.WellFormed

variable {t : Tree} (formed : t.WellFormed)

include formed

-- The first places decide. What an inner node adds was there already.
theorem gathered_in_order (ns : List NodeId) (part : NodeId → List NodeId) (wanted : NodeId → Bool)
    (ordered : t.InOrder ns) (known : ∀ n ∈ ns, t.has n)
    (below : ∀ n ∈ ns, (part n).Sublist (t.descendants n))
    (nested : ∀ n ∈ ns, ∀ m ∈ ns, n ∈ t.ancestors m → ∀ x ∈ part m, x ∈ part n) :
    t.InOrder ((ns.flatMap part).filter wanted).eraseDups := by
  induction ns generalizing wanted with
  | nil => exact List.Pairwise.nil
  | cons n ns ih =>
      obtain ⟨behind, rest⟩ := List.pairwise_cons.mp ordered
      rw [List.flatMap_cons, List.filter_append, List.eraseDups_append, List.removeAll,
        List.filter_filter]
      have own := below n List.mem_cons_self
      refine List.pairwise_append.mpr ⟨?_, ?_, ?_⟩
      · refine List.Pairwise.sublist ?_ (formed.descendants_in_order n)
        exact ((erase_dups_sublist _).trans List.filter_sublist).trans own
      · exact ih _ rest (fun m member => known m (List.mem_cons_of_mem n member))
          (fun m member => below m (List.mem_cons_of_mem n member))
          fun m member k inner => nested m (List.mem_cons_of_mem n member) k
            (List.mem_cons_of_mem n inner)
      · intro x inX y inY
        have foundX := List.mem_filter.mp (List.mem_eraseDups.mp inX)
        obtain ⟨foundY, fresh⟩ := List.mem_filter.mp (List.mem_eraseDups.mp inY)
        obtain ⟨m, member, partY⟩ := List.mem_flatMap.mp foundY
        have later := List.mem_cons_of_mem n member
        simp only [Bool.and_eq_true, Bool.not_eq_true', List.elem_eq_mem,
          decide_eq_false_iff_not] at fresh
        have other : y ∉ part n := fun again => fresh.1 (List.mem_filter.mpr ⟨again, fresh.2⟩)
        have outside : m ∉ t.subtree n := by
          intro inside
          rcases (formed.mem_subtree n m).mp inside with here | above
          · exact other (here ▸ partY)
          · exact other (nested n List.mem_cons_self m later above y partY)
        have past := formed.position_past n m x (known n List.mem_cons_self) (known m later) outside
          (behind m member) (List.mem_cons_of_mem n (own.subset foundX.1))
        have inner := (List.pairwise_cons.mp (formed.subtree_in_order m (known m later))).1 y
          ((below m later).subset partY)
        exact Nat.lt_trans past inner

end Tree.WellFormed

open Selector (SelectorList)

theorem run_select (text : String) (list : SelectorList) (d : Document)
    (read : SelectorList.parseRelative text = .ok list) :
    (Document.select text).run d =
      .ok ⟨d.id, d.issued, list.queryAll d.tree .document, []⟩ d.next := by
  have looked : d.selectNodes text = .ok (list.queryAll d.tree .document) := by
    rw [Document.selectNodes, Lookup.relativeSelector, read]
    rfl
  rw [Document.select, EStateM.run_bind, DocumentM.run_look, looked]
  rfl

theorem run_find (s : Selection) (text : String) (list : SelectorList) (d : Document)
    (read : SelectorList.parseRelative text = .ok list) :
    (s.find (.selector text)).run d =
      .ok (s.derived d (s.nodes.flatMap (list.queryAll d.tree)).eraseDups) d.next := by
  have looked : s.findNodes (.selector text) d =
      .ok (s.nodes.flatMap (list.queryAll d.tree)).eraseDups := by
    rw [Selection.findNodes, Lookup.relativeSelector, read]
    rfl
  exact s.run_looked _ d _ looked

theorem mem_query_single (t : Tree) (c : Selector.Complex) (root n : NodeId) :
    n ∈ SelectorList.queryAll [c] t root ↔ n ∈ t.descendants root ∧ c.holds t (some root) n := by
  rw [SelectorList.queryAll, List.mem_filter, SelectorList.holdsIn, Selector.anyHolds,
    Selector.anyHolds, Bool.or_false]

section Composition

variable {t : Tree} (formed : t.WellFormed)

include formed

theorem query_in_order (list : SelectorList) (root : NodeId) : t.InOrder (list.queryAll t root) :=
  List.Pairwise.filter _ (formed.descendants_in_order root)

theorem has_of_query (list : SelectorList) (root n : NodeId) (found : n ∈ list.queryAll t root) :
    t.has n :=
  formed.has_descendant root n (List.mem_filter.mp found).1

theorem holds_in_wider (list : SelectorList) (free : ∀ c ∈ list, c.anchor = none)
    (outer inner n : NodeId) (above : t.contains outer inner) (holds : list.holdsIn t inner n) :
    list.holdsIn t outer n := by
  obtain ⟨c, member, matched⟩ := (Selector.any_holds_iff t _ n list).mp holds
  refine (Selector.any_holds_iff t _ n list).mpr ⟨c, member, ?_⟩
  exact Selector.holds_wider formed outer inner ((formed.contains_iff outer inner).mp above) c n
    (free c member) matched

theorem found_in_order (ns : List NodeId) (list : SelectorList) (free : ∀ c ∈ list, c.anchor = none)
    (ordered : t.InOrder ns) (known : ∀ n ∈ ns, t.has n) :
    t.InOrder (ns.flatMap (list.queryAll t)).eraseDups := by
  have gathered := formed.gathered_in_order ns (list.queryAll t) (fun _ => true) ordered known
    (fun _ _ => List.filter_sublist) ?_
  · rwa [List.filter_eq_self.mpr fun _ _ => rfl] at gathered
  · intro n _ m _ above x found
    rw [SelectorList.queryAll, List.mem_filter] at found ⊢
    obtain ⟨below, holds⟩ := found
    rw [formed.mem_descendants] at below ⊢
    exact ⟨formed.ancestors_trans n m x above below,
      holds_in_wider formed list free n m x ((formed.contains_iff n m).mpr above) holds⟩

-- What stands in the chain between the root and a match below the root is below it as well.
theorem mem_query_attach (root : NodeId) (a b : Selector.Complex) (free : b.anchor = none) (n : NodeId) :
    n ∈ SelectorList.queryAll [a.attach .descendant b] t root ↔
      ∃ m ∈ SelectorList.queryAll [a] t root, n ∈ SelectorList.queryAll [b] t m := by
  have attached := Selector.holds_attach formed (some root) a b n
  rw [free] at attached
  simp only [mem_query_single]
  constructor
  · rintro ⟨below, holds⟩
    obtain ⟨m, first, second⟩ := attached.mp holds
    have inner : n ∈ Selector.reach t b.anchor m := Selector.holds_in_reach formed m b n second
    rw [free] at inner
    have above := (formed.mem_descendants m n).mp inner
    have reached := Selector.holds_in_reach formed root a m first
    exact ⟨m, ⟨Selector.below_of_reach formed a.anchor root m n reached above
      ((formed.mem_descendants root n).mp below), first⟩, inner, second⟩
  · rintro ⟨m, ⟨outer, first⟩, inner, second⟩
    rw [formed.mem_descendants] at outer inner ⊢
    exact ⟨formed.ancestors_trans root m n outer inner, attached.mpr ⟨m, first, second⟩⟩

theorem query_attach (root : NodeId) (a b : Selector.Complex) (free : b.anchor = none) :
    ((SelectorList.queryAll [a] t root).flatMap (SelectorList.queryAll [b] t)).eraseDups =
      SelectorList.queryAll [a.attach .descendant b] t root := by
  have known := has_of_query formed [a] root
  have ordered := query_in_order formed [a] root
  refine (found_in_order formed _ [b] (by simpa using free) ordered known).unique (query_in_order formed _ root) ?_
  intro n
  rw [List.mem_eraseDups, List.mem_flatMap, mem_query_attach formed root a b free]

end Composition

theorem find_composes (d : Document) (formed : d.tree.WellFormed) (first second : String)
    (a b : Selector.Complex) (readFirst : SelectorList.parseRelative first = .ok [a])
    (readSecond : SelectorList.parseRelative second = .ok [b]) (free : b.anchor = none) :
    ∃ ns, (Document.select first >>= fun s => s.find (.selector second)).yields d = some ns ∧
      (Document.select (first ++ " " ++ second)).yields d = some ns := by
  have joined : SelectorList.parseRelative (first ++ " " ++ second) = .ok [a.attach .descendant b] := by
    have text : (first ++ " " ++ second).toList = first.toList ++ ' ' :: second.toList := by simp
    rw [SelectorList.parseRelative, text]
    exact Selector.parse_joined first.toList second.toList a b readFirst readSecond free
  refine ⟨SelectorList.queryAll [a.attach .descendant b] d.tree .document, ?_, ?_⟩
  · rw [DocumentM.yields_bind _ _ d _ _ (run_select first [a] d readFirst),
      DocumentM.yields_of_run _ _ _ _ (run_find _ second [b] _ readSecond)]
    exact congrArg some (query_attach formed .document a b free)
  · exact DocumentM.yields_of_run _ d _ _ (run_select _ _ d joined)

theorem paragraphs_of_nested_divisions :
    let element (name : String) : Edit := .create (.element ⟨name, .empty⟩)
    let t := Tree.new.editAll
      [element "div", element "div", element "p", element "p", element "p", .append ⟨0⟩ ⟨1⟩,
        .append ⟨1⟩ ⟨2⟩, .append ⟨1⟩ ⟨3⟩, .append ⟨2⟩ ⟨4⟩, .append ⟨0⟩ ⟨5⟩]
    let d : Document := { id := 0, tree := t, reader := default }
    d.tree.WellFormed ∧ (Document.select "div").yields d = some [⟨1⟩, ⟨2⟩] ∧
      (Document.select "div" >>= fun s => s.find (.selector "p")).yields d = some [⟨4⟩, ⟨3⟩] := by
  intro element t d
  have grown : t.WellFormed := Tree.well_formed_new.well_formed_edit_all _ (by decide +kernel)
  have formed : d.tree.WellFormed := by
    dsimp only [d]
    exact grown
  obtain ⟨ns, found, selected⟩ := find_composes d formed "div" "p" (.start none [.type "div"])
    (.start none [.type "p"]) rfl rfl rfl
  have listed : (Document.select ("div" ++ " " ++ "p")).yields d = some [⟨4⟩, ⟨3⟩] := by
    decide +kernel
  refine ⟨formed, by decide +kernel, ?_⟩
  rw [found, ← selected, listed]

end DomQuery
