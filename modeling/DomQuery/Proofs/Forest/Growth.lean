import DomQuery.Markup.Source
import DomQuery.Proofs.Forest.Run
import DomQuery.Selection.Styling

set_option autoImplicit false

namespace DomQuery

namespace Tree

theorem index_next (t : Tree) (room : t.size < NodeId.absent.index) : t.nextId.index = t.size :=
  NodeId.index_of_index t.size (Nat.lt_trans room (by decide))

def Becomes (t t' : Tree) : Prop := ∃ edits, t' = t.editAll edits

namespace Becomes

theorem same (t : Tree) : t.Becomes t := ⟨[], rfl⟩

theorem trans {t t' t'' : Tree} (first : t.Becomes t') (second : t'.Becomes t'') : t.Becomes t'' := by
  obtain ⟨before, rfl⟩ := first
  obtain ⟨later, rfl⟩ := second
  exact ⟨before ++ later, (List.foldl_append).symm⟩

variable {t t' : Tree} (becomes : t.Becomes t')

include becomes

theorem size_le : t.size ≤ t'.size := by
  obtain ⟨edits, rfl⟩ := becomes
  exact size_edit_all t edits

theorem well_formed (formed : t.WellFormed) (room : t'.size ≤ NodeId.absent.index) :
    t'.WellFormed := by
  obtain ⟨edits, rfl⟩ := becomes
  exact formed.well_formed_edit_all edits room

end Becomes

end Tree

namespace Markup

theorem becomes_place (parent : Option NodeId) (payload : Payload) (t : Tree) :
    t.Becomes (place parent payload t) := by
  cases parent with
  | none => exact ⟨[.create payload], rfl⟩
  | some parent => exact ⟨[.create payload, .append parent t.nextId], rfl⟩

theorem size_place (parent : Option NodeId) (payload : Payload) (t : Tree) :
    (place parent payload t).size = t.size + 1 := by
  cases parent with
  | none => exact Tree.size_push t payload
  | some parent => rw [place, Tree.size_append_child, Tree.size_push]

mutual

theorem becomes_graft (cfg : Config) (parent : Option NodeId) (t : Tree) : (source : Source) →
    (if cfg.keeps source then place parent source.payload t else t).Becomes
      (graft cfg parent t source)
  | .element _ _ children => becomes_graft_all cfg (some t.nextId) _ children
  | .text _ => .same _
  | .comment _ => .same _
  | .doctype _ _ _ => .same _
  | .instruction _ _ => .same _

theorem becomes_graft_all (cfg : Config) (parent : Option NodeId) (t : Tree) :
    (sources : List Source) → t.Becomes (graftAll cfg parent t sources)
  | [] => .same t
  | source :: sources => by
      have placed : t.Becomes (if cfg.keeps source then place parent source.payload t else t) := by
        split
        · exact becomes_place parent source.payload t
        · exact .same t
      exact (placed.trans (becomes_graft cfg parent t source)).trans
        (becomes_graft_all cfg parent _ sources)

end

theorem graft_roots_fresh (cfg : Config) (t : Tree) (sources : List Source) :
    t.Becomes (graftRoots cfg t sources).1 ∧
      ((graftRoots cfg t sources).1.size ≤ NodeId.absent.index →
        (graftRoots cfg t sources).2.Pairwise (fun a b => a.index < b.index) ∧
        ∀ r ∈ (graftRoots cfg t sources).2,
          t.size ≤ r.index ∧ r.index < (graftRoots cfg t sources).1.size) := by
  induction sources generalizing t with
  | nil => exact ⟨.same t, fun _ => ⟨.nil, nofun⟩⟩
  | cons source sources ih =>
      obtain ⟨becomes, fresh⟩ := ih (graft cfg none t source)
      have grafted := becomes_graft cfg none t source
      by_cases kept : cfg.keeps source
      · rw [if_pos kept] at grafted
        have bigger := grafted.size_le
        rw [size_place] at bigger
        refine ⟨((becomes_place none source.payload t).trans grafted).trans becomes, fun room => ?_⟩
        obtain ⟨ordered, inside⟩ := fresh room
        have more := becomes.size_le
        have own : t.nextId.index = t.size := by
          refine t.index_next ?_
          simp only [graftRoots] at room
          omega
        simp only [graftRoots, kept, if_true, List.pairwise_cons, List.forall_mem_cons, own]
        refine ⟨⟨fun r member => ?_, ordered⟩, ⟨Nat.le_refl _, ?_⟩, fun r member => ?_⟩
        · have after := (inside r member).1
          omega
        · omega
        · have after := inside r member
          omega
      · rw [if_neg kept] at grafted
        refine ⟨grafted.trans becomes, fun room => ?_⟩
        obtain ⟨ordered, inside⟩ := fresh room
        have bigger := grafted.size_le
        simp only [graftRoots, kept]
        refine ⟨ordered, fun r member => ?_⟩
        have after := inside r member
        omega

end Markup

namespace Tree

theorem links_set_attr (t : Tree) (n m : NodeId) (name value : String) :
    (t.setAttr n name value).links m = t.links m := by
  rw [setAttr, modifyElement, links, node_modify, links]
  by_cases here : m = n
  · rw [if_pos here]
    cases t.node? m <;> rfl
  · rw [if_neg here]

theorem size_set_attr (t : Tree) (n : NodeId) (name value : String) :
    (t.setAttr n name value).size = t.size :=
  size_modify t n _

theorem links_restyle (f : Nat → NodeId → Style.Declarations → Id Style.Declarations) (t : Tree)
    (ns : List (NodeId × Nat)) :
    (Id.run (t.restyle f ns)).size = t.size ∧
      ∀ m, (Id.run (t.restyle f ns)).links m = t.links m := by
  induction ns generalizing t with
  | nil => exact ⟨rfl, fun _ => rfl⟩
  | cons pair ns ih =>
      obtain ⟨n, index⟩ := pair
      rw [restyle]
      cases t.style? n with
      | none => exact ih t
      | some style =>
          obtain ⟨size, links⟩ := ih (t.setAttr n "style" (f index n style).render)
          refine ⟨size.trans (size_set_attr t n _ _), fun m => ?_⟩
          exact (links m).trans (links_set_attr t n m _ _)

end Tree

end DomQuery
