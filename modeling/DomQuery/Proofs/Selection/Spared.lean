import DomQuery.Proofs.Selection.Styled
import DomQuery.Proofs.Style.Spilled

set_option autoImplicit false

namespace DomQuery

open Style (Declarations)

namespace Tree

theorem style_modify (t : Tree) (n m : NodeId) (f : Declarations → Declarations) :
    (t.modify n (Node.restyle f)).style? m =
      if m = n then (t.style? m).map fun style => .parse (f style).render else t.style? m := by
  rw [style_element, style_element]
  by_cases same : m = n
  · have own : (t.modify n (Node.restyle f)).node? m = (t.node? m).map (Node.restyle f) := by
      rw [node_modify, if_pos same]
    rw [if_pos same, t.element_restyle _ m f own, Option.map_map, Option.map_map]
    exact Option.map_congr fun e _ => e.style_written (f e.style).render
  · rw [if_neg same, element?, payload?, node_modify, if_neg same]
    rfl

theorem property_kept (t : Tree) (ns : List NodeId) (f : Declarations → Declarations) (name : String)
    (kept : ∀ text, (Declarations.parse (f (.parse text)).render).get? name =
      (Declarations.parse text).get? name) (m : NodeId) :
    ((t.modifyAll (Node.restyle f) ns).style? m).map (·.get? name) =
      (t.style? m).map (·.get? name) := by
  induction ns generalizing t with
  | nil => rfl
  | cons n ns ih =>
      refine (ih (t.modify n (Node.restyle f))).trans ?_
      rw [style_modify]
      split
      · rw [style_element, Option.map_map, Option.map_map, Option.map_map]
        exact Option.map_congr fun e _ => kept _
      · rfl

end Tree

namespace Document

-- The property is read as before, whatever is selected, by itself and among all properties.
structure Spares (d d' : Document) (name : String) : Prop where
  one : ∀ q : Selection, (q.css? name).run' d' = (q.css? name).run' d
  all : ∀ q : Selection, (q.firstStyle?.run' d').map (Option.map (·.get? name)) =
    (q.firstStyle?.run' d).map (Option.map (·.get? name))

theorem run_first_style (d : Document) (q : Selection) :
    q.firstStyle?.run' d = some ((q.get? 0).bind d.tree.style?) := rfl

theorem run_css (d : Document) (q : Selection) (name : String) :
    (q.css? name).run' d = some (((q.get? 0).bind d.tree.style?).bind (·.get? name)) := rfl

theorem spares_of_styles (d : Document) (t : Tree) (name : String)
    (kept : ∀ n, (t.style? n).map (·.get? name) = (d.tree.style? n).map (·.get? name)) :
    d.Spares { d with tree := t } name := by
  have first (q : Selection) : ((q.get? 0).bind t.style?).map (·.get? name) =
      ((q.get? 0).bind d.tree.style?).map (·.get? name) := by
    cases q.get? 0 with
    | none => rfl
    | some n => exact kept n
  constructor
  · intro q
    have joined (o : Option Declarations) : o.bind (·.get? name) = (o.map (·.get? name)).join := by
      cases o <;> rfl
    rw [run_css, run_css, joined, joined, first q]
  · intro q
    rw [run_first_style, run_first_style, Option.map_some, Option.map_some, first q]

end Document

def lone : Document :=
  { id := 0, tree := Tree.new.push (.element { name := "p" }), reader := default }

def loneSelected : Selection := ⟨0, 0, [⟨1⟩], []⟩

theorem style_of_lone (f : Declarations → Declarations) :
    (loneSelected.get? 0).bind (lone.tree.modifyAll (Node.restyle f) loneSelected.nodes).style? =
      some (.parse (f .empty).render) := by
  change (lone.tree.modify ⟨1⟩ (Node.restyle f)).style? ⟨1⟩ = _
  rw [Tree.style_modify, if_pos rfl]
  rfl

theorem others_kept_iff (name value other : String) (solid : Style.Solid name)
    (undivided : ':' ∉ name.toList) (apart : other ≠ name) :
    (∀ (d : Document) (s : Selection), ∃ d', (s.setCss name value).run d = .ok s d' ∧ d.Spares d' other) ↔
      ∀ e ∈ Style.spilled value, e.1 ≠ other := by
  constructor
  · intro always e member same
    subst same
    obtain ⟨d', done, spared⟩ := always lone loneSelected
    rw [Selection.setCss, Selection.run_restyle] at done
    cases done
    have read := spared.one loneSelected
    have before : (loneSelected.get? 0).bind lone.tree.style? = some .empty := rfl
    have nothing : Fields.empty.get? e.1 = none := rfl
    rw [Document.run_css, Document.run_css, style_of_lone, before, Option.bind_some, Option.bind_some,
      nothing] at read
    exact Style.Declarations.spilled_read name value solid undivided e member (Option.some.inj read)
  · intro free d s
    refine ⟨_, s.run_restyle _ d, d.spares_of_styles _ other ?_⟩
    apply d.tree.property_kept s.nodes
    intro text
    exact (Declarations.parse text).other_kept name value other (Declarations.parse_clean text) solid
      undivided apart free

theorem margin_spares_padding :
    let e : Element := ⟨"p", .ofList [("style", "padding:1px;color: blue")]⟩
    let d : Document := { id := 0, tree := Tree.new.push (.element e), reader := default }
    let s : Selection := ⟨0, 0, [⟨1⟩], []⟩
    Style.Solid "margin" ∧ ':' ∉ "margin".toList ∧ "padding" ≠ "margin" ∧
      (∀ e ∈ Style.spilled "0; color: red", e.1 ≠ "padding") ∧
      ∃ d', (s.setCss "margin" "0; color: red").run d = .ok s d' ∧
        (s.css? "padding").run' d' = some (some "1px") := by
  intro e d s
  have solid : Style.Solid "margin" := by decide +kernel
  have undivided : ':' ∉ "margin".toList := by decide
  have free : ∀ e ∈ Style.spilled "0; color: red", e.1 ≠ "padding" := by decide +kernel
  obtain ⟨d', done, spared⟩ :=
    (others_kept_iff "margin" "0; color: red" "padding" solid undivided (by decide)).mpr free d s
  refine ⟨solid, undivided, by decide, free, d', done, ?_⟩
  rw [spared.one s]
  decide +kernel

theorem margin_brings_colour :
    let e : Element := ⟨"p", .ofList [("style", "color: blue")]⟩
    let d : Document := { id := 0, tree := Tree.new.push (.element e), reader := default }
    let s : Selection := ⟨0, 0, [⟨1⟩], []⟩
    Style.Solid "margin" ∧ ':' ∉ "margin".toList ∧ (s.css? "color").run' d = some (some "blue") ∧
      (do let _ ← s.setCss "margin" "0; color: red"; s.css? "color" : DocumentM _).run' d =
        some (some "red") := by
  decide +kernel

end DomQuery
