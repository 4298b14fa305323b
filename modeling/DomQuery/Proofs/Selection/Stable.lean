import DomQuery.Proofs.Selection.Atomic
import DomQuery.Proofs.Selector.Alike

set_option autoImplicit false

namespace DomQuery

open Selector (SelectorList)

theorem queries_are_stable (t : Tree) (formed : t.WellFormed) (list : SelectorList) :
    (∀ cfg sources, (Markup.graftRoots cfg t sources).1.size ≤ NodeId.absent.index →
      list.Steady t (Markup.graftRoots cfg t sources).1) ∧
    ("style" ∉ list.tested →
      (∀ f ns, list.Steady t (Id.run (t.restyle f ns))) ∧
      ∀ (call : Call) (d later : Document) (s : Selection), d.tree = t →
        call.run.run d = .ok s later → (call.markup?.isSome → later.HasRoom) →
          list.Steady t later.tree) := by
  refine ⟨fun cfg sources room => ?_, fun untested => ⟨fun f ns => ?_, ?_⟩⟩
  · have kept := Markup.extends_graft_roots cfg t (.same t) sources room
    exact Selector.steady_of_keeps_all formed list kept.keeps
  · exact Selector.steady_of_keeps formed list (t.keeps_restyle f ns) untested
  · rintro call d later s rfl ran room
    exact Selector.steady_of_keeps formed list (keeps_call call d later s ran room) untested

theorem items_found_again :
    let element (name : String) : Edit := .create (.element ⟨name, .empty⟩)
    let t := Tree.new.editAll
      [element "ul", element "li", element "li", .append ⟨0⟩ ⟨1⟩, .append ⟨1⟩ ⟨2⟩, .append ⟨1⟩ ⟨3⟩]
    let d : Document := { id := 0, tree := t, reader := default }
    let untitled : Selector.Simple := .pseudo (.not [.start none [.attribute (.present "title")]])
    let list : SelectorList := [.link (.start none [.type "ul"]) .child [.type "li", untitled]]
    let styles : SelectorList := [.start none [.attribute (.present "style")]]
    let grown := (Markup.graftRoots {} t [.element "ul" [] [.element "li" [] []]]).1
    let styled := Id.run (t.restyle (fun _ _ style => style.set "color" "red") [(⟨2⟩, 0)])
    let call := Call.setCss ⟨0, 0, [⟨3⟩], []⟩ "color" "red"
    list.queryAll t ⟨0⟩ = [⟨2⟩, ⟨3⟩] ∧ list.queryAll grown ⟨0⟩ = [⟨2⟩, ⟨3⟩] ∧
      list.queryAll styled ⟨0⟩ = [⟨2⟩, ⟨3⟩] ∧
      (∃ s later, call.run.run d = .ok s later ∧
        list.queryAll later.tree ⟨0⟩ = [⟨2⟩, ⟨3⟩]) ∧
      styles.queryAll t ⟨0⟩ = [] ∧ styles.queryAll styled ⟨0⟩ = [⟨2⟩] := by
  intro element t d untitled list styles grown styled call
  have formed : t.WellFormed := Tree.well_formed_new.well_formed_edit_all _ (by decide +kernel)
  obtain ⟨grafting, styling⟩ := queries_are_stable t formed list
  obtain ⟨restyling, calling⟩ := styling (by decide)
  have rooted : t.has .document := by decide +kernel
  have found : list.queryAll t ⟨0⟩ = [⟨2⟩, ⟨3⟩] := by decide +kernel
  obtain ⟨s, later, ran⟩ : ∃ s later, call.run.run d = .ok s later := ⟨_, _, rfl⟩
  refine ⟨found, ?_, ?_, ⟨s, later, ran, ?_⟩, by decide +kernel, by decide +kernel⟩
  · have room : grown.size ≤ NodeId.absent.index := by decide +kernel
    exact ((grafting _ _ room).queryAll ⟨0⟩ rooted).trans found
  · exact ((restyling _ _).queryAll ⟨0⟩ rooted).trans found
  · exact ((calling call d later s (by dsimp only [d]) ran nofun).queryAll ⟨0⟩ rooted).trans found

end DomQuery
