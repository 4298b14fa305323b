import DomQuery.Proofs.Forest.Place
import DomQuery.Proofs.Markup.Pruned

set_option autoImplicit false

namespace DomQuery

namespace Markup

-- Only elements have children, and the document is no part of any source.
def Source.ofPayload? : Payload → List Source → Option Source
  | .element e, children => some (.element e.name e.attrs.entries children)
  | .text content, [] => some (.text content)
  | .comment content, [] => some (.comment content)
  | .doctype name publicId systemId, [] => some (.doctype name publicId systemId)
  | .instruction target data, [] => some (.instruction target data)
  | _, _ => none

theorem of_payload_settled (source : Source) :
    Source.ofPayload? source.payload (Source.settleAll source.children) = some source.settle := by
  cases source with
  | element name attrs children =>
      rw [Source.payload_element, Source.children, Source.ofPayload?, Source.settle,
        Element.set_all_eq]
  | text | comment | doctype | instruction => rfl

end Markup

open Markup Source

theorem map_m_congr {α β : Type} (f g : α → Option β) (as : List α) (same : ∀ a ∈ as, f a = g a) :
    as.mapM f = as.mapM g := by
  induction as with
  | nil => rfl
  | cons a as ih =>
      obtain ⟨here, later⟩ := List.forall_mem_cons.mp same
      rw [List.mapM_cons, List.mapM_cons, here, ih later]

namespace Tree

-- A node and all below it as a source, as far as `depth` levels reach.
def read (t : Tree) : Nat → NodeId → Option Source
  | 0, _ => none
  | depth + 1, n => do
      let payload ← t.payload? n
      let children ← (t.children n).mapM (t.read depth)
      Source.ofPayload? payload children

def source? (t : Tree) (n : NodeId) : Option Source := t.read t.size n

namespace WellFormed

variable {t u : Tree} (formed : t.WellFormed)

include formed

theorem read_same (depth : Nat) (n : NodeId) (same : t.SameAt u (t.subtree n)) :
    u.read depth n = t.read depth n := by
  induction depth generalizing n with
  | zero => rfl
  | succ depth ih =>
      obtain ⟨payload, children⟩ := same n List.mem_cons_self
      have below := map_m_congr (u.read depth) (t.read depth) (t.children n) fun c child =>
        ih c (same.child formed n c child)
      rw [read, read, payload, children, below]

end WellFormed

end Tree

namespace Markup

-- `u` is `t` with the sources put in below `parent`, or as trees of their own. `roots` are the
-- nodes that the sources themselves became.
structure Grafted (t u : Tree) (parent : Option NodeId) (roots : List NodeId)
    (sources : List Source) : Prop where
  formed : u.WellFormed
  size : u.size = t.size + (preorderAll sources).length
  -- Of what was there before, only the row of children below `parent` is another one.
  whole : ∀ n, n.index < t.size → parent ≠ some n → (∀ p, parent = some p → t.parent n ≠ some p) →
    u.node? n = t.node? n
  kept : ∀ n, n.index < t.size → u.payload? n = t.payload? n ∧ u.parent n = t.parent n
  children : ∀ n, n.index < t.size →
    u.children n = if parent = some n then t.children n ++ roots else t.children n
  -- What is new stands behind all of it, each node ahead of everything below it.
  above : ∀ r ∈ roots, u.parent r = parent
  listed : roots.flatMap u.subtree =
    (List.range' t.size (preorderAll sources).length).map NodeId.ofIndex
  payloads : (roots.flatMap u.subtree).map u.payload? = (preorderAll sources).map some
  read : ∀ depth, (preorderAll sources).length ≤ depth →
    roots.mapM (u.read depth) = some (settleAll sources)

namespace Grafted

theorem nothing (t : Tree) (formed : t.WellFormed) (parent : Option NodeId) :
    Grafted t t parent [] [] := by
  refine ⟨formed, rfl, fun _ _ _ _ => rfl, fun _ _ => ⟨rfl, rfl⟩, fun n _ => ?_, nofun, rfl, rfl,
    fun _ _ => rfl⟩
  rw [List.append_nil, ite_self]

section Fresh

variable {t u : Tree} {parent : Option NodeId} {roots : List NodeId} {sources : List Source}
  (grafted : Grafted t u parent roots sources)

include grafted

theorem has (n : NodeId) (known : t.has n) : u.has n := by
  simp only [Tree.has, Bool.and_eq_true, decide_eq_true_eq] at known ⊢
  have size := grafted.size
  exact ⟨known.1, by omega⟩

theorem fresh (r m : NodeId) (root : r ∈ roots) (below : m ∈ u.subtree r) :
    t.size ≤ m.index ∧ m.index < u.size := by
  have member : m ∈ roots.flatMap u.subtree := List.mem_flatMap.mpr ⟨r, root, below⟩
  rw [grafted.listed, List.mem_map] at member
  obtain ⟨i, inside, same⟩ := member
  have bound := List.mem_range'_1.mp inside
  have room := grafted.formed.room
  have small : NodeId.absent.index < UInt32.size := by decide
  have size := grafted.size
  rw [← same, NodeId.index_of_index i (by omega)]
  omega

-- What is grafted later, below a node that was there before, does not reach what is grafted here.
theorem steady {v : Tree} {more : List NodeId} {others : List Source}
    (later : Grafted u v parent more others) (known : ∀ p, parent = some p → p.index < t.size)
    (r : NodeId) (root : r ∈ roots) : u.SameAt v (u.subtree r) := by
  intro m below
  obtain ⟨behind, inside⟩ := grafted.fresh r m root below
  refine ⟨(later.kept m inside).1, (later.children m inside).trans (if_neg fun same => ?_)⟩
  exact Nat.not_lt_of_le behind (known m same)

end Fresh

variable {t u v : Tree} {parent : Option NodeId}

theorem one_size {roots : List NodeId} {source : Source}
    (grafted : Grafted t u parent roots [source]) : u.size = t.size + source.preorder.length := by
  rw [grafted.size, preorderAll, preorderAll, List.append_nil]

theorem append {first second : List NodeId} {sources others : List Source}
    (before : Grafted t u parent first sources) (later : Grafted u v parent second others)
    (known : ∀ p, parent = some p → p.index < t.size) :
    Grafted t v parent (first ++ second) (sources ++ others) := by
  have grown : t.size ≤ u.size := by
    rw [before.size]
    exact Nat.le_add_right _ _
  have same (r : NodeId) (root : r ∈ first) := before.steady later known r root
  have subtrees : first.flatMap v.subtree = first.flatMap u.subtree :=
    List.flatMap_congr fun r root =>
      before.formed.subtree_same later.formed r (same r root)
  have reads (depth : Nat) : first.mapM (v.read depth) = first.mapM (u.read depth) :=
    map_m_congr _ _ first fun r root => before.formed.read_same depth r (same r root)
  constructor
  case formed => exact later.formed
  case size => rw [later.size, before.size, preorder_all_append, List.length_append, Nat.add_assoc]
  case whole =>
    intro n old notParent elsewhere
    refine (later.whole n (Nat.lt_of_lt_of_le old grown) notParent fun p is => ?_).trans
      (before.whole n old notParent elsewhere)
    rw [(before.kept n old).2]
    exact elsewhere p is
  case kept =>
    intro n old
    obtain ⟨payload, above⟩ := later.kept n (Nat.lt_of_lt_of_le old grown)
    exact ⟨payload.trans (before.kept n old).1, above.trans (before.kept n old).2⟩
  case children =>
    intro n old
    rw [later.children n (Nat.lt_of_lt_of_le old grown), before.children n old]
    by_cases own : parent = some n
    · simp only [if_pos own, List.append_assoc]
    · simp only [if_neg own]
  case above =>
    intro r root
    rcases List.mem_append.mp root with left | right
    · have inside := (before.fresh r r left List.mem_cons_self).2
      exact (later.kept r inside).2.trans (before.above r left)
    · exact later.above r right
  case listed =>
    rw [List.flatMap_append, subtrees, before.listed, later.listed, before.size,
      preorder_all_append, List.length_append, ← List.map_append, List.range'_append_1]
  case payloads =>
    have payloads : (first.flatMap u.subtree).map v.payload? =
        (first.flatMap u.subtree).map u.payload? := by
      refine List.map_congr_left fun m member => ?_
      obtain ⟨r, root, below⟩ := List.mem_flatMap.mp member
      exact (same r root m below).1
    rw [List.flatMap_append, subtrees, List.map_append, payloads, before.payloads, later.payloads,
      preorder_all_append, List.map_append]
  case read =>
    intro depth enough
    rw [preorder_all_append, List.length_append] at enough
    rw [List.mapM_append, reads, before.read depth (by omega), later.read depth (by omega),
      settle_all_append]
    rfl

theorem node {source : Source} {kids : List NodeId} (placed : t.Placed u parent source.payload)
    (below : Grafted u v (some t.nextId) kids source.children)
    (room : t.size < NodeId.absent.index) : Grafted t v parent [t.nextId] [source] := by
  have next := t.index_next room
  have inside : t.nextId.index < u.size := by
    rw [placed.size, next]
    exact Nat.lt_succ_self _
  have grown {n : NodeId} (old : n.index < t.size) : n.index < u.size := by
    rw [placed.size]
    exact Nat.lt_succ_of_lt old
  have others {n : NodeId} (old : n.index < t.size) : some t.nextId ≠ some n := by
    rintro ⟨⟩
    exact Nat.lt_irrefl _ (next ▸ old)
  have children : v.children t.nextId = kids := by
    rw [below.children _ inside, if_pos rfl, placed.bare, List.nil_append]
  have listing : preorderAll [source] = source.payload :: preorderAll source.children := by
    rw [preorderAll, preorderAll, List.append_nil, preorder_eq]
  have subtree : [t.nextId].flatMap v.subtree = t.nextId :: kids.flatMap v.subtree := by
    rw [List.flatMap_singleton, below.formed.subtree_eq, children]
  have payload : v.payload? t.nextId = some source.payload :=
    (below.kept _ inside).1.trans placed.payload
  constructor
  case formed => exact below.formed
  case size =>
    rw [below.size, placed.size, listing, List.length_cons, Nat.add_assoc, Nat.add_comm 1]
  case whole =>
    intro n old notParent elsewhere
    refine (below.whole n (grown old) (others old) ?_).trans (placed.whole n old notParent elsewhere)
    rintro _ ⟨⟩ child
    have member := (placed.formed.mem_children t.nextId n).mpr child
    rw [placed.bare] at member
    cases member
  case kept =>
    intro n old
    obtain ⟨payload, above⟩ := below.kept n (grown old)
    exact ⟨payload.trans (placed.kept n old).1, above.trans (placed.kept n old).2⟩
  case children =>
    intro n old
    rw [below.children n (grown old), if_neg (others old), placed.children n old]
  case above =>
    intro r root
    rw [List.mem_singleton.mp root, (below.kept _ inside).2, placed.above]
  case listed =>
    rw [subtree, below.listed, placed.size, listing, List.length_cons, List.range'_succ,
      List.map_cons]
    rfl
  case payloads => rw [subtree, List.map_cons, payload, below.payloads, listing, List.map_cons]
  case read =>
    intro depth enough
    rw [listing, List.length_cons] at enough
    obtain ⟨more, rfl⟩ : ∃ more, depth = more + 1 := ⟨depth - 1, by omega⟩
    have read := below.read more (by omega)
    rw [List.mapM_cons, List.mapM_nil, Tree.read, payload, children, read]
    simp only [Option.bind_eq_bind, Option.bind_some, of_payload_settled, settleAll]
    rfl

end Grafted

section Grafting

variable (t : Tree) (formed : t.WellFormed) (parent : Option NodeId)
  (known : ∀ p, parent = some p → t.has p)

include formed known

theorem placed_source (source : Source) (room : t.size < NodeId.absent.index) :
    t.Placed (place parent source.payload t) parent source.payload := by
  cases parent with
  | none => exact formed.placed_push source.payload room
  | some parent => exact formed.placed_append source.payload room parent (known parent rfl)

theorem grafted_with (source : Source)
    (room : t.size + source.preorder.length ≤ NodeId.absent.index)
    (below : ∀ u : Tree, u.WellFormed → (∀ p, some t.nextId = some p → u.has p) →
      u.size + (preorderAll source.children).length ≤ NodeId.absent.index →
      ∃ kids, Grafted u (graftAll {} (some t.nextId) u source.children) (some t.nextId) kids
        source.children) :
    Grafted t (graft {} parent t source) parent [t.nextId] [source] := by
  rw [preorder_eq, List.length_cons] at room
  have free : t.size < NodeId.absent.index := by omega
  have placed := placed_source t formed parent known source free
  have inside : ∀ p, some t.nextId = some p → (place parent source.payload t).has p := by
    rintro _ ⟨⟩
    rw [Tree.has_iff _ _ placed.formed.room, t.index_next free, placed.size]
    exact Nat.lt_succ_self _
  obtain ⟨kids, grafted⟩ := below _ placed.formed inside (by rw [placed.size]; omega)
  rw [graft_whole]
  exact .node placed grafted free

end Grafting

mutual

theorem grafted_source (t : Tree) (formed : t.WellFormed) (parent : Option NodeId)
    (known : ∀ p, parent = some p → t.has p) : (source : Source) →
    t.size + source.preorder.length ≤ NodeId.absent.index →
    Grafted t (graft {} parent t source) parent [t.nextId] [source]
  | .element name attrs children, room =>
      grafted_with t formed parent known (.element name attrs children) room
        fun u formed known room => grafted_sources u formed (some t.nextId) known children room
  | .text content, room =>
      grafted_with t formed parent known (.text content) room
        fun u formed _ _ => ⟨[], .nothing u formed _⟩
  | .comment content, room =>
      grafted_with t formed parent known (.comment content) room
        fun u formed _ _ => ⟨[], .nothing u formed _⟩
  | .doctype name publicId systemId, room =>
      grafted_with t formed parent known (.doctype name publicId systemId) room
        fun u formed _ _ => ⟨[], .nothing u formed _⟩
  | .instruction target data, room =>
      grafted_with t formed parent known (.instruction target data) room
        fun u formed _ _ => ⟨[], .nothing u formed _⟩

theorem grafted_sources (t : Tree) (formed : t.WellFormed) (parent : Option NodeId)
    (known : ∀ p, parent = some p → t.has p) : (sources : List Source) →
    t.size + (preorderAll sources).length ≤ NodeId.absent.index →
    ∃ roots, Grafted t (graftAll {} parent t sources) parent roots sources
  | [], _ => ⟨[], .nothing t formed parent⟩
  | source :: sources, room => by
      rw [preorderAll, List.length_append] at room
      have first := grafted_source t formed parent known source (by omega)
      have size := first.one_size
      obtain ⟨roots, rest⟩ := grafted_sources _ first.formed parent
        (fun p is => first.has p (known p is)) sources (by omega)
      exact ⟨_, first.append rest fun p is => formed.index_of_has p (known p is)⟩

end

end Markup

end DomQuery
