import DomQuery.Proofs.Forest.Preorder
import DomQuery.Tree.Walk

set_option autoImplicit false

namespace DomQuery.Tree

def roots (t : Tree) : List NodeId := t.ids.filter fun n => (t.parent n).isNone

def listing (t : Tree) : List NodeId := t.roots.flatMap t.subtree

def position (t : Tree) (n : NodeId) : Nat := t.listing.idxOf n

def InOrder (t : Tree) (ns : List NodeId) : Prop :=
  ns.Pairwise fun a b => t.position a < t.position b

theorem first_of_swap (a b : NodeId) (ns : List NodeId) (apart : a ≠ b) :
    firstOf b a ns = (firstOf a b ns).map Ordering.swap := by
  induction ns with
  | nil => rfl
  | cons n ns ih =>
      by_cases isA : n = a
      · simp [firstOf, isA, apart]
      · by_cases isB : n = b
        · simp [firstOf, isB, Ne.symm apart]
        · simp [firstOf, isA, isB, ih]

theorem compare_paths_swap (t : Tree) (above : Option NodeId) (as bs : List NodeId) :
    t.comparePaths above bs as = (t.comparePaths above as bs).map Ordering.swap := by
  induction as generalizing above bs with
  | nil => cases bs <;> rfl
  | cons a as ih =>
      cases bs with
      | nil => rfl
      | cons b bs =>
          by_cases same : a = b
          · subst same
            simp [comparePaths, ih]
          · cases above with
            | none => simp [comparePaths, same, Ne.symm same]
            | some n => simp [comparePaths, same, Ne.symm same, first_of_swap a b _ same]

theorem compare_order_swap (t : Tree) (a b : NodeId) :
    t.compareOrder b a = (t.compareOrder a b).map Ordering.swap := by
  by_cases same : a = b
  · subst same
    simp [compareOrder]
  · simp only [compareOrder, same, Ne.symm same, if_false]
    exact compare_paths_swap t none (t.path a) (t.path b)

theorem compare_paths_shared (t : Tree) (above : Option NodeId) (shared as bs : List NodeId)
    (n : NodeId) :
    t.comparePaths above (shared ++ n :: as) (shared ++ n :: bs) =
      t.comparePaths (some n) as bs := by
  induction shared generalizing above with
  | nil => simp [comparePaths]
  | cons m shared ih => simp [comparePaths, ih]

theorem compare_paths_same (t : Tree) (above : Option NodeId) (ns : List NodeId) :
    t.comparePaths above ns ns = some .eq := by
  induction ns generalizing above with
  | nil => rfl
  | cons n ns ih => simp [comparePaths, ih]

theorem first_of_pairwise (ns : List NodeId) (distinct : ns.Nodup) :
    ns.Pairwise fun a b => firstOf a b ns = some .lt := by
  induction ns with
  | nil => exact List.Pairwise.nil
  | cons n ns ih =>
      obtain ⟨fresh, rest⟩ := List.nodup_cons.mp distinct
      refine List.pairwise_cons.mpr ⟨fun b _ => by simp [firstOf], ?_⟩
      refine (ih rest).imp_of_mem fun foundA foundB first => ?_
      have notA : n ≠ _ := fun same => fresh (same ▸ foundA)
      have notB : n ≠ _ := fun same => fresh (same ▸ foundB)
      simp only [firstOf, notA, notB, if_false]
      exact first

theorem ids_pairwise (t : Tree) (room : t.size ≤ NodeId.absent.index) :
    t.ids.Pairwise fun a b => a.word < b.word := by
  refine List.pairwise_map.mpr (List.pairwise_lt_range.imp_of_mem fun {i j} _ found less => ?_)
  have small : NodeId.absent.index < UInt32.size := by decide
  have bound := List.mem_range.mp found
  change (NodeId.ofIndex i).index < (NodeId.ofIndex j).index
  rw [NodeId.index_of_index i (by omega), NodeId.index_of_index j (by omega)]
  exact less

theorem mem_ids (t : Tree) (n : NodeId) (room : t.size ≤ NodeId.absent.index) :
    n ∈ t.ids ↔ t.has n := by
  rw [has_iff t n room, ids, List.mem_map]
  constructor
  · rintro ⟨i, inside, same⟩
    have bound := List.mem_range.mp inside
    have small : NodeId.absent.index < UInt32.size := by decide
    rw [← same, NodeId.index_of_index i (by omega)]
    exact bound
  · intro bound
    exact ⟨n.index, List.mem_range.mpr bound, NodeId.of_index_index n⟩

theorem related_of_index {R : NodeId → NodeId → Prop} (ns : List NodeId) (related : ns.Pairwise R)
    (a b : NodeId) (inside : b ∈ ns) (less : ns.idxOf a < ns.idxOf b) : R a b := by
  have bound := List.idxOf_lt_length_of_mem inside
  have found := List.pairwise_iff_getElem.mp related _ _ (Nat.lt_trans less bound) bound less
  rwa [List.getElem_idxOf, List.getElem_idxOf] at found

theorem erase_dups_nodup (ns : List NodeId) : ns.eraseDups.Nodup := by
  cases ns with
  | nil => exact List.nodup_nil
  | cons n ns =>
      rw [List.eraseDups_cons]
      have shorter := List.length_filter_le (fun m => !m == n) ns
      refine List.nodup_cons.mpr ⟨fun found => ?_, erase_dups_nodup _⟩
      have kept := (List.mem_filter.mp (List.mem_eraseDups.mp found)).2
      simp at kept
termination_by ns.length

theorem erase_dups_sublist (ns : List NodeId) : ns.eraseDups.Sublist ns := by
  cases ns with
  | nil => exact List.Sublist.refl _
  | cons n ns =>
      rw [List.eraseDups_cons]
      have shorter := List.length_filter_le (fun m => !m == n) ns
      exact ((erase_dups_sublist _).trans List.filter_sublist).cons_cons n
termination_by ns.length

theorem erase_dups_of_nodup (ns : List NodeId) (distinct : ns.Nodup) : ns.eraseDups = ns := by
  induction ns with
  | nil => rfl
  | cons n ns ih =>
      obtain ⟨fresh, rest⟩ := List.nodup_cons.mp distinct
      have others : ns.filter (fun m => !m == n) = ns := by
        refine List.filter_eq_self.mpr fun m member => ?_
        have apart : m ≠ n := fun same => fresh (same ▸ member)
        simpa using apart
      rw [List.eraseDups_cons, others, ih rest]

theorem erase_dups_filter (ns : List NodeId) (wanted : NodeId → Bool) :
    (ns.filter wanted).eraseDups = ns.eraseDups.filter wanted := by
  cases ns with
  | nil => rfl
  | cons n ns =>
      have shorter := List.length_filter_le (fun m => !m == n) ns
      have rest := erase_dups_filter (ns.filter fun m => !m == n) wanted
      rw [List.eraseDups_cons, List.filter_cons, List.filter_cons]
      by_cases kept : wanted n
      · rw [if_pos kept, if_pos kept, List.eraseDups_cons, ← rest, List.filter_comm]
      · -- A node that is not wanted is not among the wanted ones, whether it is taken out or not.
        have absent : ∀ m ∈ ns.filter wanted, (!m == n) = true := by
          intro m found
          have other : m ≠ n := fun same => kept (same ▸ (List.mem_filter.mp found).2)
          simpa using other
        rw [if_neg kept, if_neg kept, ← rest, List.filter_comm, List.filter_eq_self.mpr absent]
termination_by ns.length

theorem InOrder.nodup {t : Tree} {ns : List NodeId} (ordered : t.InOrder ns) : ns.Nodup := by
  refine List.Pairwise.imp (fun {a b} less same => ?_) ordered
  rw [same] at less
  exact Nat.lt_irrefl _ less

theorem InOrder.unique {t : Tree} {ns ms : List NodeId} (first : t.InOrder ns) (second : t.InOrder ms)
    (same : ∀ n, n ∈ ns ↔ n ∈ ms) : ns = ms := by
  have reordered := (List.perm_ext_iff_of_nodup first.nodup second.nodup).mpr same
  exact reordered.eq_of_pairwise (fun _ _ _ _ less more => absurd less (Nat.lt_asymm more)) first second

namespace WellFormed

variable {t : Tree} (formed : t.WellFormed)

include formed

theorem path_root (n : NodeId) (root : t.parent n = none) : t.path n = [n] := by
  rw [path, formed.ancestors_root n root]
  rfl

theorem path_child (n p : NodeId) (parent : t.parent n = some p) : t.path n = t.path p ++ [n] := by
  rw [path, formed.ancestors_child n p parent, List.reverse_cons]
  rfl

theorem path_below (c n : NodeId) (below : n ∈ t.subtree c) : ∃ rest, t.path n = t.path c ++ rest := by
  induction n using formed.induction_up with
  | step n ih =>
      rcases (formed.mem_subtree c n).mp below with here | above
      · exact ⟨[], by rw [here, List.append_nil]⟩
      · cases parent : t.parent n with
        | none => simp [formed.ancestors_root n parent] at above
        | some p =>
            have closer : p ∈ t.subtree c := by
              rw [formed.mem_subtree]
              exact ((formed.mem_ancestors_child c n p parent).mp above).imp_left Eq.symm
            obtain ⟨rest, path⟩ := ih p parent closer
            exact ⟨rest ++ [n], by rw [formed.path_child n p parent, path, List.append_assoc]⟩

theorem mem_roots (r : NodeId) : r ∈ t.roots ↔ t.has r ∧ t.parent r = none := by
  rw [roots, List.mem_filter, mem_ids t r formed.room, Option.isNone_iff_eq_none]

theorem root_of_child (n p : NodeId) (parent : t.parent n = some p) :
    t.rootOf n = t.rootOf p := by
  rw [rootOf, formed.ancestors_child n p parent, List.getLastD_cons]
  rfl

theorem root_of_root (n : NodeId) (root : t.parent n = none) : t.rootOf n = n := by
  rw [rootOf, formed.ancestors_root n root]
  rfl

theorem root_of_mem (r n : NodeId) (root : t.parent r = none) (below : n ∈ t.subtree r) :
    t.rootOf n = r := by
  induction n using formed.induction_up with
  | step n ih =>
      rcases (formed.mem_subtree r n).mp below with here | above
      · rw [here, formed.root_of_root r root]
      · cases parent : t.parent n with
        | none => simp [formed.ancestors_root n parent] at above
        | some p =>
            rw [formed.root_of_child n p parent]
            refine ih p parent ((formed.mem_subtree r p).mpr ?_)
            exact ((formed.mem_ancestors_child r n p parent).mp above).imp_left Eq.symm

theorem below_root (n : NodeId) :
    t.parent (t.rootOf n) = none ∧ n ∈ t.subtree (t.rootOf n) := by
  induction n using formed.induction_up with
  | step n ih =>
      cases parent : t.parent n with
      | none =>
          rw [formed.root_of_root n parent]
          exact ⟨parent, List.mem_cons_self⟩
      | some p =>
          rw [formed.root_of_child n p parent]
          refine ⟨(ih p parent).1, (formed.mem_subtree _ n).mpr (Or.inr ?_)⟩
          rw [formed.mem_ancestors_child _ n p parent]
          exact ((formed.mem_subtree _ p).mp (ih p parent).2).imp_left Eq.symm

theorem path_head (n : NodeId) : ∃ rest, t.path n = t.rootOf n :: rest := by
  obtain ⟨root, below⟩ := formed.below_root n
  obtain ⟨rest, path⟩ := formed.path_below (t.rootOf n) n below
  rw [formed.path_root _ root] at path
  exact ⟨rest, path⟩

theorem compare_below (n m : NodeId) (below : m ∈ t.descendants n) :
    t.compareOrder n m = some .lt := by
  have apart : n ≠ m := by
    intro same
    rw [same] at below
    exact formed.not_own_ancestor m ((formed.mem_descendants m m).mp below)
  rw [formed.descendants_eq, List.mem_flatMap] at below
  obtain ⟨c, child, inside⟩ := below
  obtain ⟨rest, path⟩ := formed.path_below c m inside
  rw [formed.path_child c n ((formed.mem_children n c).mp child), List.append_assoc] at path
  rw [compareOrder, if_neg apart, path, Tree.path]
  simp only [List.append_assoc, List.cons_append, List.nil_append, compare_paths_shared]
  rfl

theorem compare_beside (n c d x y : NodeId) (first : firstOf c d (t.children n) = some .lt)
    (childC : t.parent c = some n) (childD : t.parent d = some n) (apart : c ≠ d)
    (belowC : x ∈ t.subtree c) (belowD : y ∈ t.subtree d) : t.compareOrder x y = some .lt := by
  obtain ⟨restX, pathX⟩ := formed.path_below c x belowC
  obtain ⟨restY, pathY⟩ := formed.path_below d y belowD
  have own : t.path n = (t.ancestors n).reverse ++ [n] := rfl
  rw [formed.path_child c n childC, own] at pathX
  rw [formed.path_child d n childD, own] at pathY
  have compared : t.comparePaths none (t.path x) (t.path y) = some .lt := by
    rw [pathX, pathY]
    simp only [List.append_assoc, List.cons_append, List.nil_append, compare_paths_shared,
      comparePaths, apart, if_false, Option.bind_some]
    exact first
  have different : x ≠ y := by
    intro same
    rw [same, compare_paths_same] at compared
    cases compared
  rw [compareOrder, if_neg different, compared]

theorem subtree_compared (n : NodeId) :
    (t.subtree n).Pairwise fun a b => t.compareOrder a b = some .lt := by
  induction n using formed.induction_down with
  | step n ih =>
      refine List.pairwise_cons.mpr ⟨fun m below => formed.compare_below n m below, ?_⟩
      rw [formed.descendants_eq]
      refine List.pairwise_flatMap.mpr ⟨ih, ?_⟩
      have distinct := (formed.row_children n).distinct
      refine ((first_of_pairwise _ distinct).and distinct).imp_of_mem ?_
      rintro c d childC childD ⟨first, apart⟩ x belowC y belowD
      exact formed.compare_beside n c d x y first ((formed.mem_children n c).mp childC)
        ((formed.mem_children n d).mp childD) apart belowC belowD

theorem compare_apart (a b : NodeId) (apart : t.rootOf a ≠ t.rootOf b) :
    t.compareOrder a b = none := by
  obtain ⟨restA, pathA⟩ := formed.path_head a
  obtain ⟨restB, pathB⟩ := formed.path_head b
  have different : a ≠ b := fun same => apart (by rw [same])
  rw [compareOrder, if_neg different, pathA, pathB, comparePaths, if_neg apart]
  rfl

-- The comparison that sorts agrees with the listing, both ways.
theorem listing_sorted :
    t.listing.Pairwise fun a b => t.precedesOrEq a b = true ∧ t.precedesOrEq b a = false := by
  refine List.pairwise_flatMap.mpr ⟨fun r _ => ?_, ?_⟩
  · refine (formed.subtree_compared r).imp fun {a b} compared => ?_
    have back : t.compareOrder b a = some .gt := by
      rw [compare_order_swap, compared]
      rfl
    rw [precedesOrEq, precedesOrEq, compared, back]
    exact ⟨rfl, rfl⟩
  · refine ((ids_pairwise t formed.room).filter _).imp_of_mem ?_
    intro r q rootR rootQ less a belowR b belowQ
    have ownR := formed.root_of_mem r a ((formed.mem_roots r).mp rootR).2 belowR
    have ownQ := formed.root_of_mem q b ((formed.mem_roots q).mp rootQ).2 belowQ
    have apart : r ≠ q := by
      intro same
      rw [same] at less
      exact UInt32.lt_irrefl _ less
    have forth := formed.compare_apart a b (by rwa [ownR, ownQ])
    have back := formed.compare_apart b a (by rw [ownR, ownQ]; exact apart.symm)
    rw [precedesOrEq, precedesOrEq, forth, back, ownR, ownQ]
    exact ⟨decide_eq_true (UInt32.le_of_lt less), decide_eq_false (UInt32.not_le.mpr less)⟩

theorem mem_listing (n : NodeId) : n ∈ t.listing ↔ t.has n := by
  rw [listing, List.mem_flatMap]
  constructor
  · rintro ⟨r, root, below⟩
    rcases (formed.mem_subtree r n).mp below with here | above
    · rw [here]
      exact ((formed.mem_roots r).mp root).1
    · exact formed.has_below r n above
  · intro known
    obtain ⟨root, below⟩ := formed.below_root n
    refine ⟨t.rootOf n, (formed.mem_roots _).mpr ⟨?_, root⟩, below⟩
    rcases (formed.mem_subtree _ n).mp below with here | above
    · rwa [← here]
    · exact formed.has_ancestor _ n above

theorem listing_nodup : t.listing.Nodup := by
  refine formed.listing_sorted.imp fun {a b} sorted same => ?_
  rw [same, sorted.1] at sorted
  exact Bool.noConfusion sorted.2

theorem position_injective (a b : NodeId) (known : t.has a) (same : t.position a = t.position b) :
    a = b :=
  (List.idxOf_inj ((formed.mem_listing a).mpr known)).mp same

theorem listing_in_order : t.InOrder t.listing := by
  refine List.pairwise_iff_getElem.mpr fun i j _ _ less => ?_
  rw [position, position, formed.listing_nodup.idxOf_getElem, formed.listing_nodup.idxOf_getElem]
  exact less

theorem precedes_of_lt (a b : NodeId) (known : t.has b) (less : t.position a < t.position b) :
    t.precedesOrEq a b = true ∧ t.precedesOrEq b a = false :=
  related_of_index t.listing formed.listing_sorted a b ((formed.mem_listing b).mpr known) less

theorem precedes_iff (a b : NodeId) (knownA : t.has a) (knownB : t.has b) :
    t.precedesOrEq a b = true ↔ t.position a ≤ t.position b := by
  rcases Nat.lt_trichotomy (t.position a) (t.position b) with less | same | more
  · exact iff_of_true (formed.precedes_of_lt a b knownB less).1 (Nat.le_of_lt less)
  · have equal := formed.position_injective a b knownA same
    subst equal
    simp [precedesOrEq, compareOrder, Ordering.isLE]
  · rw [(formed.precedes_of_lt b a knownA more).2]
    simp [more]

theorem sort_in_order (ns : List NodeId) (distinct : ns.Nodup) (known : ∀ n ∈ ns, t.has n) :
    t.InOrder (t.sortDocumentOrder ns) := by
  have agree : t.sortDocumentOrder ns =
      ns.mergeSort fun a b => decide (t.position a ≤ t.position b) := by
    have replaced := List.map_mergeSort (r := t.precedesOrEq)
      (s := fun a b => decide (t.position a ≤ t.position b)) (f := id) (l := ns) fun a inA b inB =>
        Bool.eq_iff_iff.mpr (by simpa using formed.precedes_iff a b (known a inA) (known b inB))
    rwa [List.map_id, List.map_id] at replaced
  have sorted : (t.sortDocumentOrder ns).Pairwise fun a b => t.position a ≤ t.position b := by
    rw [agree]
    refine (List.pairwise_mergeSort ?_ ?_ ns).imp of_decide_eq_true
    · intro a b c less more
      simp only [decide_eq_true_eq] at less more ⊢
      exact Nat.le_trans less more
    · intro a b
      simp only [Bool.or_eq_true, decide_eq_true_eq]
      exact Nat.le_total _ _
  have reordered : (t.sortDocumentOrder ns).Perm ns := List.mergeSort_perm ns _
  refine (sorted.and (reordered.nodup_iff.mpr distinct)).imp_of_mem ?_
  intro a b inA _ ⟨less, apart⟩
  refine Nat.lt_of_le_of_ne less fun same => apart ?_
  exact formed.position_injective a b (known a (reordered.mem_iff.mp inA)) same

theorem subtree_infix (n : NodeId) (known : t.has n) : t.subtree n <:+: t.listing := by
  induction n using formed.induction_up with
  | step n ih =>
      cases parent : t.parent n with
      | none =>
          have root := (formed.mem_roots n).mpr ⟨known, parent⟩
          obtain ⟨front, back, split⟩ := List.append_of_mem root
          exact ⟨front.flatMap t.subtree, back.flatMap t.subtree, by simp [listing, split]⟩
      | some p =>
          have here := formed.subtree_of_child p n parent
          have above := ih p parent (formed.has_parent n p parent)
          exact (here.trans (List.suffix_cons p _).isInfix).trans above

theorem subtree_in_order (n : NodeId) (known : t.has n) : t.InOrder (t.subtree n) :=
  List.Pairwise.sublist (formed.subtree_infix n known).sublist formed.listing_in_order

theorem descendants_in_order (n : NodeId) : t.InOrder (t.descendants n) := by
  by_cases known : t.has n
  · exact (List.pairwise_cons.mp (formed.subtree_in_order n known)).2
  · have nothing : t.descendants n = [] := by
      refine List.eq_nil_iff_forall_not_mem.mpr fun m below => known ?_
      exact formed.has_ancestor n m ((formed.mem_descendants n m).mp below)
    rw [nothing]
    exact List.Pairwise.nil

-- A node behind `n` but not below it stands behind all that is below `n`.
theorem position_past (n m x : NodeId) (known : t.has n) (other : t.has m)
    (outside : m ∉ t.subtree n) (behind : t.position n < t.position m) (below : x ∈ t.subtree n) :
    t.position x < t.position m := by
  obtain ⟨front, back, split⟩ := formed.subtree_infix n known
  have ordered : t.InOrder (front ++ t.subtree n ++ back) := split ▸ formed.listing_in_order
  have member : m ∈ front ++ t.subtree n ++ back := split ▸ (formed.mem_listing m).mpr other
  obtain ⟨first, _, last⟩ := List.pairwise_append.mp ordered
  obtain ⟨_, _, middle⟩ := List.pairwise_append.mp first
  rcases List.mem_append.mp member with inner | after
  · rcases List.mem_append.mp inner with before | here
    · exact absurd behind (Nat.lt_asymm (middle m before n List.mem_cons_self))
    · exact absurd here outside
  · exact last x (List.mem_append_right _ below) m after

end WellFormed

end DomQuery.Tree
