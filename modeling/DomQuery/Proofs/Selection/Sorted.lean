import DomQuery.Proofs.Selection.Effect

set_option autoImplicit false

namespace DomQuery

open Selector (SelectorList)

section Sorting

variable {t : Tree} (formed : t.WellFormed)

include formed

theorem Tree.WellFormed.sorted_iff (ns : List NodeId) (lists : t.Lists ns) :
    t.sortDocumentOrder ns = ns ↔ t.InOrder ns := by
  constructor
  · intro sorted
    rw [← sorted]
    exact formed.sort_in_order ns lists.distinct lists.known
  · intro ordered
    refine List.mergeSort_of_pairwise (List.Pairwise.imp_of_mem ?_ ordered)
    intro a b _ member less
    exact (formed.precedes_of_lt a b (lists.known b member) less).1

theorem descendants_found_in_order (ns : List NodeId) (ordered : t.InOrder ns)
    (known : ∀ n ∈ ns, t.has n) :
    t.InOrder ((ns.flatMap t.descendants).filter t.isElement).eraseDups := by
  refine formed.gathered_in_order ns t.descendants t.isElement ordered known
    (fun n _ => List.Sublist.refl _) fun n _ m _ above x below => ?_
  rw [formed.mem_descendants] at below ⊢
  exact formed.ancestors_trans n m x above below

theorem mem_found (ns : List NodeId) (list : SelectorList) (x : NodeId) :
    x ∈ (ns.flatMap (list.queryAll t)).eraseDups ↔
      ∃ n ∈ ns, t.contains n x ∧ list.holdsIn t n x := by
  rw [List.mem_eraseDups, List.mem_flatMap]
  refine exists_congr fun n => and_congr_right fun _ => ?_
  rw [SelectorList.queryAll, List.mem_filter, formed.mem_descendants, formed.contains_iff]

theorem mem_descendants_found (ns : List NodeId) (x : NodeId) :
    x ∈ ((ns.flatMap t.descendants).filter t.isElement).eraseDups ↔
      t.isElement x ∧ ∃ n ∈ ns, t.contains n x := by
  rw [List.mem_eraseDups, List.mem_filter, List.mem_flatMap, and_comm]
  refine and_congr_right fun _ => exists_congr fun n => and_congr_right fun _ => ?_
  rw [formed.mem_descendants, formed.contains_iff]

end Sorting

theorem finding_keeps_order (d : Document) (formed : d.tree.WellFormed) (s : Selection)
    (lists : d.tree.Lists s.nodes) (sorted : d.tree.sortDocumentOrder s.nodes = s.nodes) :
    (∀ text list, SelectorList.parseRelative text = .ok list → (∀ c ∈ list, c.anchor = none) →
      ∃ ns, (s.find (.selector text)).yields d = some ns ∧ d.tree.sortDocumentOrder ns = ns ∧
        ns.Nodup ∧ ∀ x, x ∈ ns ↔ ∃ n ∈ s.nodes, d.tree.contains n x ∧ list.holdsIn d.tree n x) ∧
    ∃ ns, s.descendants.yields d = some ns ∧ d.tree.sortDocumentOrder ns = ns ∧
      ns.Nodup ∧ ∀ x, x ∈ ns ↔ d.tree.isElement x ∧ ∃ n ∈ s.nodes, d.tree.contains n x := by
  have ordered := (formed.sorted_iff s.nodes lists).mp sorted
  have inside (n x : NodeId) (below : d.tree.contains n x) : d.tree.has x :=
    formed.has_below n x ((formed.contains_iff n x).mp below)
  constructor
  · intro text list read free
    have found := found_in_order formed s.nodes list free ordered lists.known
    have members := mem_found formed s.nodes list
    refine ⟨_, DocumentM.yields_of_run _ d _ _ (run_find s text list d read), ?_, found.nodup, members⟩
    refine (formed.sorted_iff _ ⟨found.nodup, fun x member => ?_⟩).mpr found
    obtain ⟨n, _, below, _⟩ := (members x).mp member
    exact inside n x below
  · have found := descendants_found_in_order formed s.nodes ordered lists.known
    have members := mem_descendants_found formed s.nodes
    refine ⟨_, rfl, ?_, found.nodup, members⟩
    refine (formed.sorted_iff _ ⟨found.nodup, fun x member => ?_⟩).mpr found
    obtain ⟨_, n, _, below⟩ := (members x).mp member
    exact inside n x below

theorem paragraphs_stay_sorted :
    let element (name : String) : Edit := .create (.element ⟨name, .empty⟩)
    let t := Tree.new.editAll
      [element "div", element "p", element "div", element "p", element "div", element "p",
        .append ⟨0⟩ ⟨3⟩, .append ⟨3⟩ ⟨5⟩, .append ⟨5⟩ ⟨6⟩, .append ⟨3⟩ ⟨2⟩, .append ⟨1⟩ ⟨4⟩]
    let d : Document := { id := 0, tree := t, reader := default }
    let s : Selection := ⟨0, 0, [⟨3⟩, ⟨5⟩, ⟨1⟩], []⟩
    d.tree.WellFormed ∧ d.tree.Lists s.nodes ∧ d.tree.sortDocumentOrder s.nodes = s.nodes ∧
      (s.find (.selector "div p, p")).yields d = some [⟨6⟩, ⟨2⟩, ⟨4⟩] ∧
      d.tree.sortDocumentOrder [⟨6⟩, ⟨2⟩, ⟨4⟩] = [⟨6⟩, ⟨2⟩, ⟨4⟩] := by
  intro element t d s
  have grown : t.WellFormed := Tree.well_formed_new.well_formed_edit_all _ (by decide +kernel)
  have formed : d.tree.WellFormed := by
    dsimp only [d]
    exact grown
  have lists : d.tree.Lists s.nodes := ⟨by decide, by decide +kernel⟩
  have sorted : d.tree.sortDocumentOrder s.nodes = s.nodes :=
    List.mergeSort_of_pairwise (by decide +kernel)
  obtain ⟨finding, _⟩ := finding_keeps_order d formed s lists sorted
  obtain ⟨ns, found, inOrder, _⟩ := finding "div p, p" _ rfl (by decide)
  have listed : (s.find (.selector "div p, p")).yields d = some [⟨6⟩, ⟨2⟩, ⟨4⟩] := by
    decide +kernel
  have same : ns = [⟨6⟩, ⟨2⟩, ⟨4⟩] := Option.some.inj (found.symm.trans listed)
  rw [same] at inOrder
  exact ⟨formed, lists, sorted, listed, inOrder⟩

end DomQuery
