import DomQuery.Proofs.Forest.Growth

set_option autoImplicit false

namespace DomQuery

def Links.Behind (l : Links) (base : Nat) : Prop := ∀ m ∈ l.targets, base ≤ m.index

theorem Links.behind_iff (l : Links) (base : Nat) :
    l.Behind base ↔ (∀ m, l.parent = some m → base ≤ m.index) ∧
      (∀ m, l.firstChild = some m → base ≤ m.index) ∧ (∀ m, l.lastChild = some m → base ≤ m.index) ∧
      (∀ m, l.prevSibling = some m → base ≤ m.index) ∧
      ∀ m, l.nextSibling = some m → base ≤ m.index := by
  simp only [Behind, mem_targets, or_imp, forall_and]

namespace Tree

-- The nodes of `t` are in `u` as they were, and no link leads from behind them back to them.
structure Extends (t u : Tree) : Prop where
  size : t.size ≤ u.size
  old : ∀ n, n.index < t.size → u.node? n = t.node? n
  apart : ∀ n, t.size ≤ n.index → (u.links n).Behind t.size

namespace Extends

theorem same (t : Tree) : t.Extends t := by
  refine ⟨Nat.le_refl _, fun _ _ => rfl, fun n behind m target => ?_⟩
  rw [links_outside t n behind] at target
  cases target

variable {t u : Tree} (kept : t.Extends u)

include kept

theorem modify_links (n : NodeId) (f : Links → Links) (behind : t.size ≤ n.index)
    (steady : (u.links n).Behind t.size → (f (u.links n)).Behind t.size) :
    t.Extends (u.modifyLinks n f) := by
  refine ⟨by rw [size_modify_links]; exact kept.size, fun m old => ?_, fun m later => ?_⟩
  · have other : m ≠ n := fun same => Nat.not_lt_of_le behind (same ▸ old)
    rw [modifyLinks, node_modify, if_neg other]
    exact kept.old m old
  · rcases u.links_modify_or n m f with same | ⟨rfl, changed⟩
    · rw [same]
      exact kept.apart m later
    · rw [changed]
      exact steady (kept.apart m behind)

theorem bridge (beside parent : Option NodeId) (link cap : Links → Links)
    (behindBeside : ∀ n, beside = some n → t.size ≤ n.index)
    (behindParent : ∀ n, parent = some n → t.size ≤ n.index)
    (steadyLink : ∀ l : Links, l.Behind t.size → (link l).Behind t.size)
    (steadyCap : ∀ l : Links, l.Behind t.size → (cap l).Behind t.size) :
    t.Extends (u.bridge beside parent link cap) := by
  cases beside with
  | some n => exact kept.modify_links n link (behindBeside n rfl) (steadyLink _)
  | none =>
      cases parent with
      | some n => exact kept.modify_links n cap (behindParent n rfl) (steadyCap _)
      | none => exact kept

theorem unlink (n : NodeId) (behind : t.size ≤ n.index) : t.Extends (u.unlink n) := by
  have own := kept.apart n behind
  rw [Links.behind_iff] at own
  obtain ⟨behindParent, _, _, behindPrev, behindNext⟩ := own
  refine bridge (bridge kept _ _ _ _ behindPrev behindParent ?_ ?_) _ _ _ _ behindNext behindParent
    ?_ ?_ <;> intro l apart <;> rw [Links.behind_iff] at apart ⊢
  · exact ⟨apart.1, apart.2.1, apart.2.2.1, apart.2.2.2.1, behindNext⟩
  · exact ⟨apart.1, behindNext, apart.2.2⟩
  · exact ⟨apart.1, apart.2.1, apart.2.2.1, behindPrev, apart.2.2.2.2⟩
  · exact ⟨apart.1, apart.2.1, behindPrev, apart.2.2.2⟩

theorem detach (n : NodeId) (behind : t.size ≤ n.index) : t.Extends (u.detach n) := by
  by_cases known : u.has n
  · rw [Tree.detach, if_pos known]
    refine (kept.unlink n behind).modify_links n _ behind fun apart => ?_
    rw [Links.behind_iff] at apart ⊢
    exact ⟨by simp, apart.2.1, apart.2.2.1, by simp, by simp⟩
  · rw [Tree.detach, if_neg known]
    exact kept

theorem link_last (parent child : NodeId) (behindParent : t.size ≤ parent.index)
    (behindChild : t.size ≤ child.index) : t.Extends (u.linkLast parent child) := by
  have behindLast : ∀ k, u.lastChild parent = some k → t.size ≤ k.index :=
    ((Links.behind_iff _ _).mp (kept.apart parent behindParent)).2.2.1
  have named : ∀ k, some child = some k → t.size ≤ k.index := by
    rintro k ⟨⟩
    exact behindChild
  unfold linkLast
  refine modify_links ?_ parent _ behindParent fun apart => ?_
  · have placed : t.Extends (u.modifyLinks child fun l =>
        { l with parent := some parent, prevSibling := u.lastChild parent, nextSibling := none }) := by
      refine kept.modify_links child _ behindChild fun apart => ?_
      rw [Links.behind_iff] at apart ⊢
      refine ⟨?_, apart.2.1, apart.2.2.1, behindLast, nofun⟩
      rintro k ⟨⟩
      exact behindParent
    cases last : u.lastChild parent with
    | some k =>
        rw [last] at placed
        refine placed.modify_links k _ (behindLast k last) fun apart => ?_
        rw [Links.behind_iff] at apart ⊢
        exact ⟨apart.1, apart.2.1, apart.2.2.1, apart.2.2.2.1, named⟩
    | none =>
        rw [last] at placed
        refine placed.modify_links parent _ behindParent fun apart => ?_
        rw [Links.behind_iff] at apart ⊢
        exact ⟨apart.1, named, apart.2.2⟩
  · rw [Links.behind_iff] at apart ⊢
    exact ⟨apart.1, apart.2.1, named, apart.2.2.2⟩

theorem append_child (parent child : NodeId) (behindParent : t.size ≤ parent.index)
    (behindChild : t.size ≤ child.index) : t.Extends (u.appendChild parent child) := by
  by_cases fits : u.canAppend parent child
  · rw [appendChild, if_pos fits]
    exact (kept.detach child behindChild).link_last parent child behindParent behindChild
  · rw [appendChild, if_neg fits]
    exact kept

theorem push (payload : Payload) : t.Extends (u.push payload) := by
  refine ⟨?_, fun n old => ?_, fun n behind => ?_⟩
  · rw [size_push]
    exact Nat.le_succ_of_le kept.size
  · have inside : n.index < u.nodes.size := Nat.lt_of_lt_of_le old kept.size
    rw [← kept.old n old]
    simp only [node?, Tree.push, Array.getElem?_push_lt inside, Array.getElem?_eq_getElem inside]
  · rw [links_push]
    exact kept.apart n behind

end Extends

end Tree

namespace Markup

variable {base : Tree} (cfg : Config)

theorem next_behind (t : Tree) (kept : base.Extends t) (room : t.size < NodeId.absent.index) :
    base.size ≤ t.nextId.index := by
  rw [t.index_next room]
  exact kept.size

theorem extends_place (parent : Option NodeId) (payload : Payload) (t : Tree)
    (kept : base.Extends t) (behind : ∀ p, parent = some p → base.size ≤ p.index)
    (room : (place parent payload t).size ≤ NodeId.absent.index) :
    base.Extends (place parent payload t) := by
  cases parent with
  | none => exact kept.push payload
  | some parent =>
      rw [size_place] at room
      exact (kept.push payload).append_child parent t.nextId (behind parent rfl)
        (next_behind t kept room)

theorem extends_kept (parent : Option NodeId) (source : Source) (t : Tree) (kept : base.Extends t)
    (behind : ∀ p, parent = some p → base.size ≤ p.index)
    (room : (if cfg.keeps source then place parent source.payload t else t).size ≤
      NodeId.absent.index) :
    base.Extends (if cfg.keeps source then place parent source.payload t else t) := by
  by_cases keeps : cfg.keeps source
  · rw [if_pos keeps] at room ⊢
    exact extends_place parent source.payload t kept behind room
  · rw [if_neg keeps]
    exact kept

mutual

theorem extends_graft (parent : Option NodeId) (t : Tree) (kept : base.Extends t)
    (behind : ∀ p, parent = some p → base.size ≤ p.index) : (source : Source) →
    (graft cfg parent t source).size ≤ NodeId.absent.index →
      base.Extends (graft cfg parent t source)
  | .element name attrs children, room => by
      have placed : (place parent (Source.element name attrs children).payload t).size ≤
          NodeId.absent.index :=
        Nat.le_trans (becomes_graft_all cfg (some t.nextId) _ children).size_le room
      refine extends_graft_all (some t.nextId) _ (extends_place parent _ t kept behind placed) ?_
        children room
      rintro p ⟨⟩
      rw [size_place] at placed
      exact next_behind t kept placed
  | .text content, room => extends_kept cfg parent (.text content) t kept behind room
  | .comment content, room => extends_kept cfg parent (.comment content) t kept behind room
  | .doctype name publicId systemId, room =>
      extends_kept cfg parent (.doctype name publicId systemId) t kept behind room
  | .instruction target data, room =>
      extends_kept cfg parent (.instruction target data) t kept behind room

theorem extends_graft_all (parent : Option NodeId) (t : Tree) (kept : base.Extends t)
    (behind : ∀ p, parent = some p → base.size ≤ p.index) : (sources : List Source) →
    (graftAll cfg parent t sources).size ≤ NodeId.absent.index →
      base.Extends (graftAll cfg parent t sources)
  | [], _ => kept
  | source :: sources, room => by
      have first := (becomes_graft_all cfg parent (graft cfg parent t source) sources).size_le
      exact extends_graft_all parent _
        (extends_graft parent t kept behind source (Nat.le_trans first room)) behind sources room

end

theorem extends_graft_roots (t : Tree) (kept : base.Extends t) (sources : List Source)
    (room : (graftRoots cfg t sources).1.size ≤ NodeId.absent.index) :
    base.Extends (graftRoots cfg t sources).1 := by
  induction sources generalizing t with
  | nil => exact kept
  | cons source sources ih =>
      have first := (graft_roots_fresh cfg (graft cfg none t source) sources).1.size_le
      exact ih _ (extends_graft cfg none t kept nofun source (Nat.le_trans first room)) room

end Markup

def Payload.unstyled (p : Payload) : Payload := p.mapElement (·.removeAttr "style")

namespace Tree

-- Every node is there still, in its place. Only elements of `styled` may have another style.
structure Keeps (t t' : Tree) (styled : List NodeId) : Prop where
  size : t.size ≤ t'.size
  links : ∀ n, n.index < t.size → t'.links n = t.links n
  payload : ∀ n, n.index < t.size → n ∉ styled → t'.payload? n = t.payload? n
  unstyled : ∀ n, n.index < t.size →
    (t'.payload? n).map Payload.unstyled = (t.payload? n).map Payload.unstyled

theorem Keeps.more {t u : Tree} (kept : t.Keeps u []) (styled : List NodeId) : t.Keeps u styled :=
  ⟨kept.size, kept.links, fun n old _ => kept.payload n old List.not_mem_nil, kept.unstyled⟩

theorem Extends.keeps {t u : Tree} (kept : t.Extends u) : t.Keeps u [] := by
  have payload (n : NodeId) (old : n.index < t.size) : u.payload? n = t.payload? n := by
    rw [payload?, kept.old n old, payload?]
  refine ⟨kept.size, fun n old => ?_, fun n old _ => payload n old, fun n old => ?_⟩
  · rw [links, kept.old n old, links]
  · rw [payload n old]

theorem payload_set_attr (t : Tree) (n m : NodeId) (name value : String) :
    (t.setAttr n name value).payload? m =
      if m = n then (t.payload? m).map (·.mapElement (·.setAttr name value)) else t.payload? m := by
  rw [setAttr, modifyElement, payload?, node_modify, payload?]
  by_cases here : m = n
  · simp only [if_pos here, Option.map_map, Function.comp_def]
  · simp only [if_neg here]

end Tree

theorem Field.without_put (name value : String) (es : List Field) :
    Field.without name (Field.put name value es) = Field.without name es := by
  induction es with
  | nil => simp [Field.put, Field.without]
  | cons e es ih =>
      unfold Field.without at ih ⊢
      by_cases here : e.1 = name
      · simp [Field.put, here]
      · simpa [Field.put, here] using ih

theorem Payload.unstyled_set_attr (p : Payload) (value : String) :
    (p.mapElement (·.setAttr "style" value)).unstyled = p.unstyled := by
  cases p with
  | element e =>
      have attrs : (e.attrs.insert "style" value).erase "style" = e.attrs.erase "style" :=
        Fields.ext (Field.without_put "style" value e.attrs.entries)
      simp only [mapElement, unstyled, Element.setAttr, Element.removeAttr, attrs]
  | document | doctype _ _ _ | text _ | comment _ | instruction _ _ => rfl

namespace Tree

theorem payload_restyle (f : Nat → NodeId → Style.Declarations → Id Style.Declarations) (t : Tree)
    (ns : List (NodeId × Nat)) (m : NodeId) :
    (m ∉ ns.map Prod.fst → (Id.run (t.restyle f ns)).payload? m = t.payload? m) ∧
      ((Id.run (t.restyle f ns)).payload? m).map Payload.unstyled =
        (t.payload? m).map Payload.unstyled := by
  induction ns generalizing t with
  | nil => exact ⟨fun _ => rfl, rfl⟩
  | cons pair ns ih =>
      obtain ⟨n, index⟩ := pair
      rw [restyle, List.map_cons, List.mem_cons, not_or]
      cases t.style? n with
      | none => exact ⟨fun apart => (ih t).1 apart.2, (ih t).2⟩
      | some style =>
          obtain ⟨outside, unstyled⟩ := ih (t.setAttr n "style" (f index n style).render)
          refine ⟨fun apart => (outside apart.2).trans ?_, unstyled.trans ?_⟩
          · rw [payload_set_attr, if_neg apart.1]
          · rw [payload_set_attr]
            by_cases here : m = n
            · simp only [if_pos here, Option.map_map, Function.comp_def, Payload.unstyled_set_attr]
            · rw [if_neg here]

theorem keeps_restyle (f : Nat → NodeId → Style.Declarations → Id Style.Declarations) (t : Tree)
    (ns : List (NodeId × Nat)) : t.Keeps (Id.run (t.restyle f ns)) (ns.map Prod.fst) := by
  obtain ⟨size, links⟩ := t.links_restyle f ns
  exact ⟨Nat.le_of_eq size.symm, fun n _ => links n, fun n _ => (t.payload_restyle f ns n).1,
    fun n _ => (t.payload_restyle f ns n).2⟩

end Tree

end DomQuery
