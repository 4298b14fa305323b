import DomQuery.Proofs.Selection.Find
import DomQuery.Proofs.Selection.Union
import DomQuery.Proofs.Selector.Composed

set_option autoImplicit false

namespace DomQuery

open Selector (SelectorList)

theorem mem_query_append (t : Tree) (root : NodeId) (as bs : SelectorList) (n : NodeId) :
    n ∈ SelectorList.queryAll (as ++ bs) t root ↔
      n ∈ as.queryAll t root ∨ n ∈ bs.queryAll t root := by
  simp only [SelectorList.queryAll, List.mem_filter, SelectorList.holdsIn, Selector.any_holds_iff,
    List.mem_append, or_and_right, exists_or, and_or_left]

section Tree

variable {t : Tree} (formed : t.WellFormed)

include formed

theorem query_append (root : NodeId) (as bs : SelectorList) :
    SelectorList.queryAll (as ++ bs) t root =
      t.arrange (as.queryAll t root ++ bs.queryAll t root) := by
  have known : ∀ n ∈ as.queryAll t root ++ bs.queryAll t root, t.has n := by
    intro n found
    rcases List.mem_append.mp found with first | second
    · exact has_of_query formed as root n first
    · exact has_of_query formed bs root n second
  apply (query_in_order formed (as ++ bs) root).unique (formed.arrange_in_order _)
  intro n
  rw [formed.mem_arrange _ known, mem_query_append, List.mem_append]

end Tree

theorem alternatives_unite (d : Document) (formed : d.tree.WellFormed) (first second : String)
    (as bs : SelectorList) (readFirst : SelectorList.parseRelative first = .ok as)
    (readSecond : SelectorList.parseRelative second = .ok bs) :
    ∃ ns, (Document.select first >>= fun s => s.add (.selector second)).yields d = some ns ∧
      (Document.select (first ++ "," ++ second)).yields d = some ns := by
  have joined : SelectorList.parseRelative (first ++ "," ++ second) = .ok (as ++ bs) :=
    Selector.parse_lists_joined true first second as bs readFirst readSecond
  have selected := run_select first as d readFirst
  have own : Selection.BelongsTo ⟨d.id, d.issued, as.queryAll d.tree .document, []⟩ d.next :=
    ⟨rfl, has_of_query formed as .document, fun _ none => nomatch none⟩
  have answer : d.next.nodesOf "add" (.selector second) = .ok (bs.queryAll d.tree .document) := by
    rw [Document.nodesOf, Document.selectNodes, Lookup.relativeSelector, readSecond]
    rfl
  have added := Selection.run_add (show d.next.tree.WellFormed from formed) _ (.selector second) _
    own (has_of_query formed bs .document) answer
  refine ⟨SelectorList.queryAll (as ++ bs) d.tree .document, ?_, ?_⟩
  · rw [DocumentM.yields_bind _ _ d _ _ selected, DocumentM.yields_of_run _ _ _ _ added]
    exact congrArg some (query_append formed .document as bs).symm
  · exact DocumentM.yields_of_run _ d _ _ (run_select _ _ d joined)

theorem heading_before_divisions :
    let element (name : String) : Edit := .create (.element ⟨name, .empty⟩)
    let t := Tree.new.editAll
      [element "div", element "h1", element "div", element "p", .append ⟨0⟩ ⟨2⟩, .append ⟨0⟩ ⟨1⟩,
        .append ⟨1⟩ ⟨3⟩, .append ⟨3⟩ ⟨4⟩]
    let d : Document := { id := 0, tree := t, reader := default }
    d.tree.WellFormed ∧ (Document.select "div").yields d = some [⟨1⟩, ⟨3⟩] ∧
      (Document.select "div" >>= fun s => s.add (.selector "h1, div > div")).yields d =
        some [⟨2⟩, ⟨1⟩, ⟨3⟩] := by
  intro element t d
  have grown : t.WellFormed := Tree.well_formed_new.well_formed_edit_all _ (by decide +kernel)
  have formed : d.tree.WellFormed := by
    dsimp only [d]
    exact grown
  obtain ⟨ns, added, selected⟩ := alternatives_unite d formed "div" "h1, div > div" _ _ rfl rfl
  have listed : (Document.select ("div" ++ "," ++ "h1, div > div")).yields d =
      some [⟨2⟩, ⟨1⟩, ⟨3⟩] := by
    decide +kernel
  refine ⟨formed, by decide +kernel, ?_⟩
  rw [added, ← selected, listed]

end DomQuery
