import DomQuery.Proofs.Forest.Frame
import DomQuery.Proofs.Style.RoundTrip

set_option autoImplicit false

namespace DomQuery

open Style (Declarations)

namespace Style

-- A property that can be set and read again, or one that is to be removed.
def Assignable (e : Field) : Prop := e.2 = "" ∨ Clean e

instance (e : Field) : Decidable (Assignable e) := inferInstanceAs (Decidable (e.2 = "" ∨ Clean e))

def assign (es : List Field) (e : Field) : List Field :=
  if e.2 = "" then es.filter (·.1 ≠ e.1)
  else if e.1 ∈ es.map Prod.fst then es.map fun other => if other.1 = e.1 then e else other
  else es ++ [e]

namespace Declarations

theorem entries_set (d : Declarations) (e : Field) : (d.set e.1 e.2).entries = assign d.entries e := by
  rw [set, assign]
  by_cases removed : e.2 = ""
  · rw [if_pos (by simpa using removed), if_pos removed]
    rfl
  · rw [if_neg (by simpa using removed), if_neg removed]
    exact d.entries_insert e

theorem entries_set_all (d : Declarations) (es : List Field) :
    (d.setAll es).entries = es.foldl assign d.entries := by
  induction es generalizing d with
  | nil => rfl
  | cons e es ih =>
      rw [List.foldl_cons, ← entries_set]
      exact ih (d.set e.1 e.2)

theorem clean_set (d : Declarations) (e : Field) (clean : d.IsClean) (fit : Assignable e) :
    (d.set e.1 e.2).IsClean := by
  intro other member
  rw [set] at member
  by_cases removed : e.2 = ""
  · rw [if_pos (by simpa using removed)] at member
    exact clean other (List.mem_filter.mp member).1
  · rw [if_neg (by simpa using removed)] at member
    rcases Field.mem_put e.1 e.2 d.entries other member with new | old
    · exact new ▸ fit.resolve_left removed
    · exact clean other old

theorem clean_set_all (d : Declarations) (es : List Field) (clean : d.IsClean)
    (fit : ∀ e ∈ es, Assignable e) : (d.setAll es).IsClean := by
  induction es generalizing d with
  | nil => exact clean
  | cons e es ih =>
      exact ih (d.set e.1 e.2) (clean_set d e clean (fit e List.mem_cons_self))
        fun other member => fit other (List.mem_cons_of_mem e member)

end Declarations

end Style

namespace Element

def style (e : Element) : Declarations := .parse ((e.attr? "style").getD "")

def restyle (f : Declarations → Declarations) (e : Element) : Element :=
  e.setAttr "style" (f e.style).render

-- The same element, with every attribute but `style` as it was and where it was.
structure Restyled (change : List Field → List Field) (e e' : Element) : Prop where
  name : e'.name = e.name
  names : e'.attrs.names =
    if "style" ∈ e.attrs.names then e.attrs.names else e.attrs.names ++ ["style"]
  values : ∀ name, name ≠ "style" → e'.attr? name = e.attr? name
  style : e'.style.entries = change e.style.entries

theorem style_written (e : Element) (text : String) : (e.setAttr "style" text).style = .parse text := by
  rw [style, attr_set_attr, if_pos rfl]
  rfl

theorem style_set (e : Element) (d : Declarations) (clean : d.IsClean) :
    (e.setAttr "style" d.render).style = d :=
  (e.style_written d.render).trans (d.parse_render clean)

theorem restyle_restyle (f g : Declarations → Declarations) (e : Element)
    (clean : (f e.style).IsClean) : (e.restyle f).restyle g = e.restyle fun style => g (f style) := by
  rw [restyle, restyle, style_set e _ clean, restyle, setAttr, setAttr, setAttr]
  rw [Fields.insert_insert]

theorem restyled (f : Declarations → Declarations) (change : List Field → List Field) (e : Element)
    (clean : (f e.style).IsClean) (changed : (f e.style).entries = change e.style.entries) :
    e.Restyled change (e.restyle f) := by
  refine ⟨rfl, Fields.names_insert _ _ _, fun name other => ?_, ?_⟩
  · rw [restyle, attr_set_attr, if_neg other]
  · rw [restyle, style_set e _ clean, changed]

end Element

theorem Payload.element_map (p : Payload) (f : Element → Element) :
    (p.mapElement f).element? = p.element?.map f := by
  cases p <;> rfl

theorem Payload.map_bare (p : Payload) (f : Element → Element) (bare : p.element? = none) :
    p.mapElement f = p := by
  cases p with
  | element e => cases bare
  | document | doctype _ _ _ | text _ | comment _ | instruction _ _ => rfl

def Node.restyle (f : Declarations → Declarations) (node : Node) : Node :=
  { node with payload := node.payload.mapElement (·.restyle f) }

theorem Node.restyle_restyle (f g : Declarations → Declarations) (node : Node)
    (clean : ∀ text, (f (.parse text)).IsClean) :
    (node.restyle f).restyle g = node.restyle fun style => g (f style) := by
  obtain ⟨payload, links⟩ := node
  cases payload with
  | element e =>
      simp only [restyle, Payload.mapElement, Element.restyle_restyle f g e (clean _)]
  | document | doctype _ _ _ | text _ | comment _ | instruction _ _ => rfl

namespace Tree

def modifyAll (t : Tree) (f : Node → Node) (ns : List NodeId) : Tree :=
  ns.foldl (fun t n => t.modify n f) t

theorem nodes_modify_all (t : Tree) (f : Node → Node) (ns : List NodeId) (distinct : ns.Nodup)
    (i : Nat) : (t.modifyAll f ns).nodes[i]? =
      if i ∈ ns.map NodeId.index then t.nodes[i]?.map f else t.nodes[i]? := by
  induction ns generalizing t with
  | nil => rfl
  | cons n ns ih =>
      obtain ⟨fresh, rest⟩ := List.nodup_cons.mp distinct
      change ((t.modify n f).modifyAll f ns).nodes[i]? = _
      rw [ih (t.modify n f) rest, nodes_modify]
      simp only [List.map_cons, List.mem_cons]
      by_cases here : n.index = i
      · have once : i ∉ ns.map NodeId.index := by
          intro again
          obtain ⟨m, member, same⟩ := List.mem_map.mp again
          exact fresh (NodeId.index_injective m n (same.trans here.symm) ▸ member)
        rw [if_neg once, if_pos here, if_pos (Or.inl here.symm)]
      · simp only [if_neg here, Ne.symm here, false_or]

theorem node_modify_all (t : Tree) (f : Node → Node) (ns : List NodeId) (distinct : ns.Nodup)
    (n : NodeId) : (t.modifyAll f ns).node? n = if n ∈ ns then (t.node? n).map f else t.node? n := by
  have member : n.index ∈ ns.map NodeId.index ↔ n ∈ ns :=
    List.mem_map_of_injective NodeId.index_injective
  rw [node?, t.nodes_modify_all f ns distinct]
  simp only [member, node?]

theorem style_element (t : Tree) (n : NodeId) : t.style? n = (t.element? n).map Element.style := rfl

theorem element_of_node (t : Tree) (n : NodeId) (node : Node) (found : t.node? n = some node) :
    t.element? n = node.payload.element? := by
  rw [element?, payload?, found]
  rfl

theorem element_restyle (t t' : Tree) (n : NodeId) (f : Declarations → Declarations)
    (changed : t'.node? n = (t.node? n).map (Node.restyle f)) :
    t'.element? n = (t.element? n).map (Element.restyle f) := by
  rw [element?, payload?, changed, Option.map_map]
  cases found : t.node? n with
  | none => simp [element?, payload?, found]
  | some node =>
      rw [t.element_of_node n node found]
      exact node.payload.element_map _

theorem modify_restyle (t : Tree) (f : Declarations → Declarations) (n : NodeId) :
    t.modify n (Node.restyle f) = match t.style? n with
      | some style => t.setAttr n "style" (f style).render
      | none => t := by
  rw [style_element]
  cases element : t.element? n with
  | none =>
      refine (t.modify_congr n _ id fun node found => ?_).trans (t.modify_id n)
      rw [t.element_of_node n node found] at element
      rw [Node.restyle, Payload.map_bare _ _ element, id]
  | some e =>
      refine t.modify_congr n _ _ fun node found => ?_
      rw [t.element_of_node n node found] at element
      obtain ⟨payload, links⟩ := node
      cases payload with
      | element own =>
          cases element
          rfl
      | document | doctype _ _ _ | text _ | comment _ | instruction _ _ => cases element

theorem restyle_eq (t : Tree) (f : Declarations → Declarations) (pairs : List (NodeId × Nat)) :
    Id.run (t.restyle (fun _ _ style => f style) pairs) =
      t.modifyAll (Node.restyle f) (pairs.map Prod.fst) := by
  induction pairs generalizing t with
  | nil => rfl
  | cons pair pairs ih =>
      obtain ⟨n, index⟩ := pair
      change _ = (t.modify n (Node.restyle f)).modifyAll _ _
      rw [restyle, modify_restyle]
      cases t.style? n with
      | none => exact ih t
      | some style => exact ih (t.setAttr n "style" (f style).render)

section Passes

variable (t : Tree) (ns : List NodeId) (distinct : ns.Nodup)

include distinct

theorem restyle_restyle (f g : Declarations → Declarations)
    (clean : ∀ text, (f (.parse text)).IsClean) :
    (t.modifyAll (Node.restyle f) ns).modifyAll (Node.restyle g) ns =
      t.modifyAll (Node.restyle fun style => g (f style)) ns := by
  refine ext_nodes _ _ fun i => ?_
  simp only [nodes_modify_all _ _ ns distinct]
  by_cases member : i ∈ ns.map NodeId.index
  · simp only [if_pos member, Option.map_map]
    exact Option.map_congr fun node _ => node.restyle_restyle f g clean
  · simp only [if_neg member]

-- After a first pass, further passes with one property each do what one pass with all of them does.
theorem restyle_each (f : Declarations → Declarations) (es : List Field)
    (clean : ∀ text, (f (.parse text)).IsClean) (fit : ∀ e ∈ es, Style.Assignable e) :
    es.foldl (fun t e => t.modifyAll (Node.restyle (·.set e.1 e.2)) ns)
        (t.modifyAll (Node.restyle f) ns) =
      t.modifyAll (Node.restyle fun style => (f style).setAll es) ns := by
  induction es generalizing f with
  | nil => rfl
  | cons e es ih =>
      rw [List.foldl_cons, restyle_restyle t ns distinct f _ clean]
      refine ih _ (fun text => ?_) fun other member => fit other (List.mem_cons_of_mem e member)
      exact (f (.parse text)).clean_set e (clean text) (fit e List.mem_cons_self)

theorem restyle_all (es : List Field) (some : es ≠ []) (fit : ∀ e ∈ es, Style.Assignable e) :
    t.modifyAll (Node.restyle (·.setAll es)) ns =
      es.foldl (fun t e => t.modifyAll (Node.restyle (·.set e.1 e.2)) ns) t := by
  cases es with
  | nil => exact absurd rfl some
  | cons e es =>
      refine (restyle_each t ns distinct (·.set e.1 e.2) es (fun text => ?_) fun other member => ?_).symm
      · exact (Declarations.parse text).clean_set e (Declarations.parse_clean text) (fit e List.mem_cons_self)
      · exact fit other (List.mem_cons_of_mem e member)

end Passes

-- The elements among the given nodes have other declarations, and that is all.
structure Restyled (t t' : Tree) (ns : List NodeId) (change : List Field → List Field) : Prop where
  size : t'.size = t.size
  links : ∀ n, t'.links n = t.links n
  others : ∀ n, n ∉ ns ∨ ¬t.isElement n → t'.node? n = t.node? n
  elements : ∀ n ∈ ns, ∀ e, t.element? n = some e →
    ∃ e', t'.element? n = some e' ∧ e.Restyled change e'

theorem size_modify_all (t : Tree) (f : Node → Node) (ns : List NodeId) :
    (t.modifyAll f ns).size = t.size := by
  induction ns generalizing t with
  | nil => rfl
  | cons n ns ih => exact (ih (t.modify n f)).trans (size_modify t n f)

theorem restyled (t : Tree) (ns : List NodeId) (distinct : ns.Nodup)
    (f : Declarations → Declarations) (change : List Field → List Field)
    (clean : ∀ text, (f (.parse text)).IsClean)
    (changed : ∀ d : Declarations, (f d).entries = change d.entries) :
    t.Restyled (t.modifyAll (Node.restyle f) ns) ns change := by
  have nodes := t.node_modify_all (Node.restyle f) ns distinct
  refine ⟨t.size_modify_all _ ns, fun n => ?_, fun n outside => ?_, fun n member e found => ?_⟩
  · rw [links, nodes, links]
    split
    · rw [Option.map_map]
      rfl
    · rfl
  · rw [nodes]
    split
    · next member =>
        have bare := outside.resolve_left (not_not.mpr member)
        cases found : t.node? n with
        | none => rfl
        | some node =>
            rw [isElement, t.element_of_node n node found, Option.not_isSome_iff_eq_none] at bare
            rw [Option.map_some, Node.restyle, Payload.map_bare _ _ bare]
    · rfl
  · refine ⟨e.restyle f, ?_, e.restyled f change (clean _) (changed _)⟩
    have own := nodes n
    rw [if_pos member] at own
    rw [t.element_restyle _ n f own, found, Option.map_some]

end Tree

namespace Selection

theorem run_restyle (s : Selection) (f : Declarations → Declarations) (d : Document) :
    (s.restyle f).run d =
      .ok s { d with tree := d.tree.modifyAll (Node.restyle f) s.nodes } := by
  have tree := d.tree.restyle_eq f s.nodes.zipIdx
  rw [List.zipIdx_map_fst] at tree
  rw [← tree]
  rfl

theorem run_set_each (s : Selection) (es : List Field) (d : Document) :
    (es.foldlM (fun (s : Selection) e => s.setCss e.1 e.2) s).run d =
      .ok s { d with
        tree := es.foldl (fun t e => t.modifyAll (Node.restyle (·.set e.1 e.2)) s.nodes) d.tree } := by
  induction es generalizing d with
  | nil => rfl
  | cons e es ih =>
      rw [List.foldlM_cons, EStateM.run_bind, setCss, run_restyle]
      exact ih _

end Selection

theorem style_writes_agree (d : Document) (s : Selection) (es : List Field)
    (distinct : s.nodes.Nodup) (some : es ≠ []) (fit : ∀ e ∈ es, Style.Assignable e) :
    (s.setCssAll es).run d = (es.foldlM (fun (s : Selection) e => s.setCss e.1 e.2) s).run d ∧
    (∀ name value, (s.setCss name value).run d =
      (s.setCssWith name fun _ _ _ => Option.some value).run d) ∧
    (∀ name, (s.setCss name "").run d = (s.setCssWith name fun _ _ _ => none).run d) ∧
    ∃ t, (s.setCssAll es).run d = .ok s { d with tree := t } ∧
      d.tree.Restyled t s.nodes (es.foldl Style.assign) := by
  have all := s.run_restyle (·.setAll es) d
  refine ⟨?_, fun name value => rfl, fun name => rfl, _, all, ?_⟩
  · rw [s.run_set_each, Selection.setCssAll, all, d.tree.restyle_all s.nodes distinct es some fit]
  · apply d.tree.restyled s.nodes distinct
    · exact fun text => (Declarations.parse text).clean_set_all es (Declarations.parse_clean text) fit
    · exact fun style => style.entries_set_all es

theorem item_gets_margin :
    let item : Element := ⟨"li", .ofList [("class", "a"), ("style", "margin:1px;color: red"), ("id", "x")]⟩
    let t := Tree.new.editAll
      [.create (.element item), .create (.text "one"), .append ⟨0⟩ ⟨1⟩, .append ⟨1⟩ ⟨2⟩]
    let d : Document := { id := 0, tree := t, reader := default }
    let s : Selection := ⟨0, 0, [⟨2⟩, ⟨1⟩], []⟩
    let es := [("margin", ""), ("color", "blue"), ("margin", "2px")]
    s.nodes.Nodup ∧ es ≠ [] ∧ (∀ e ∈ es, Style.Assignable e) ∧
      (s.setCssAll es).run d = (es.foldlM (fun (s : Selection) e => s.setCss e.1 e.2) s).run d ∧
      ∃ t', (s.setCssAll es).run d = .ok s { d with tree := t' } ∧
        t'.text? ⟨2⟩ = some "one" ∧
        ∃ e, t'.element? ⟨1⟩ = some e ∧ e.attrs.names = ["class", "style", "id"] ∧
          e.attr? "id" = some "x" ∧ e.style.entries = [("color", "blue"), ("margin", "2px")] := by
  intro item t d s es
  have distinct : s.nodes.Nodup := by decide
  have fit : ∀ e ∈ es, Style.Assignable e := by decide +kernel
  obtain ⟨same, _, _, t', ran, restyled⟩ := style_writes_agree d s es distinct (by decide) fit
  have before : (d.tree.element? ⟨1⟩).map (fun e => (e.attrs.names, e.attr? "id", e.style.entries)) =
      some (["class", "style", "id"], some "x", [("margin", "1px"), ("color", "red")]) := by
    decide +kernel
  obtain ⟨own, known, facts⟩ := Option.map_eq_some_iff.mp before
  simp only [Prod.mk.injEq] at facts
  obtain ⟨names, title, style⟩ := facts
  obtain ⟨e, found, changed⟩ := restyled.elements ⟨1⟩ (by decide) own known
  refine ⟨distinct, by decide, fit, same, t', ran, ?_, e, found, ?_, ?_, ?_⟩
  · have text : d.tree.text? ⟨2⟩ = some "one" := by decide +kernel
    rw [← text, Tree.text?, Tree.payload?, restyled.others ⟨2⟩ (Or.inr (by decide +kernel))]
    rfl
  · rw [changed.names, names]
    decide
  · rw [changed.values "id" (by decide), title]
  · rw [changed.style, style]
    decide

end DomQuery
