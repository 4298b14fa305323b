import DomQuery.Proofs.Forest.Run
import DomQuery.Proofs.Selection.Outcome

set_option autoImplicit false

namespace DomQuery

-- The trees by their roots, of each tree what `ns` names in the order of the walk through it.
def Tree.arrange (t : Tree) (ns : List NodeId) : List NodeId :=
  t.roots.flatMap fun r => (r :: t.descendants r).filter ns.contains

namespace Tree

theorem arrange_eq (t : Tree) (ns : List NodeId) : t.arrange ns = t.listing.filter ns.contains := by
  rw [listing, List.filter_flatMap]
  rfl

theorem arrange_congr (t : Tree) (ns ms : List NodeId) (same : ∀ n, n ∈ ns ↔ n ∈ ms) :
    t.arrange ns = t.arrange ms := by
  have contained : ns.contains = ms.contains := by
    funext n
    rw [Bool.eq_iff_iff, List.contains_iff_mem, List.contains_iff_mem]
    exact same n
  rw [arrange, arrange, contained]

namespace WellFormed

variable {t : Tree} (formed : t.WellFormed)

include formed

theorem arrange_in_order (ns : List NodeId) : t.InOrder (t.arrange ns) := by
  rw [arrange_eq]
  exact List.Pairwise.filter _ formed.listing_in_order

theorem has_of_arranged (ns : List NodeId) (n : NodeId) (member : n ∈ t.arrange ns) : t.has n := by
  rw [arrange_eq] at member
  exact (formed.mem_listing n).mp (List.mem_filter.mp member).1

theorem mem_arrange (ns : List NodeId) (known : ∀ n ∈ ns, t.has n) (n : NodeId) :
    n ∈ t.arrange ns ↔ n ∈ ns := by
  rw [arrange_eq, List.mem_filter, List.contains_iff_mem, formed.mem_listing]
  exact ⟨And.right, fun member => ⟨known n member, member⟩⟩

theorem arrange_of_in_order (ns : List NodeId) (known : ∀ n ∈ ns, t.has n)
    (ordered : t.InOrder ns) : t.arrange ns = ns :=
  (formed.arrange_in_order ns).unique ordered (formed.mem_arrange ns known)

theorem arrange_absorb (ns ms : List NodeId) (known : ∀ n ∈ ns, t.has n) (ordered : t.InOrder ns)
    (part : ∀ n ∈ ms, n ∈ ns) : t.arrange (ns ++ ms) = ns := by
  rw [arrange_congr t (ns ++ ms) ns]
  · exact formed.arrange_of_in_order ns known ordered
  · intro n
    rw [List.mem_append]
    exact ⟨fun member => member.elim id (part n), Or.inl⟩

theorem sort_eq_arrange (ns : List NodeId) (known : ∀ n ∈ ns, t.has n) :
    t.sortDocumentOrder ns.eraseDups = t.arrange ns := by
  have inside : ∀ n ∈ ns.eraseDups, t.has n := fun n member => known n (List.mem_eraseDups.mp member)
  refine (formed.sort_in_order _ (erase_dups_nodup ns) inside).unique (formed.arrange_in_order ns) ?_
  intro n
  rw [formed.mem_arrange ns known, sortDocumentOrder, (List.mergeSort_perm _ _).mem_iff,
    List.mem_eraseDups]

end WellFormed

end Tree

namespace Selection

theorem join_nodes_eq (s : Selection) (extra : List NodeId) (t : Tree) (formed : t.WellFormed)
    (own : ∀ n ∈ s.nodes, t.has n) (known : ∀ n ∈ extra, t.has n) :
    s.joinNodes extra t = t.arrange (s.nodes ++ extra) := by
  refine formed.sort_eq_arrange _ fun n member => ?_
  rcases List.mem_append.mp member with old | new
  · exact own n old
  · exact known n new

section Operations

variable {d : Document} (formed : d.tree.WellFormed)

include formed

theorem run_add (s : Selection) (operand : Operand) (extra : List NodeId) (own : s.BelongsTo d)
    (known : ∀ n ∈ extra, d.tree.has n) (answer : d.nodesOf "add" operand = .ok extra) :
    (s.add operand).run d = .ok (s.derived d (d.tree.arrange (s.nodes ++ extra))) d.next := by
  rw [add, EStateM.run_bind, DocumentM.run_resolve "add" operand d extra answer]
  rw [← join_nodes_eq s extra d.tree formed own.known known]
  exact run_join s extra d

theorem run_add_selection (a b : Selection) (ownA : a.BelongsTo d) (ownB : b.BelongsTo d) :
    (a.add (.selection b)).run d = .ok (a.derived d (d.tree.arrange (a.nodes ++ b.nodes))) d.next := by
  refine run_add formed a (.selection b) b.nodes ownA ownB.known ?_
  exact if_pos ownB.home

theorem run_add_nodes (a : Selection) (ns : List NodeId) (own : a.BelongsTo d)
    (known : ∀ n ∈ ns, d.tree.has n) :
    (a.add (.nodes ns)).run d = .ok (a.derived d (d.tree.arrange (a.nodes ++ ns))) d.next := by
  exact run_add formed a (.nodes ns) ns own known (d.known_of_has ns known)

theorem joined_belongs (s : Selection) (ns : List NodeId) (own : s.BelongsTo d) :
    (s.derived d (d.tree.arrange ns)).BelongsTo d.next :=
  own.derived _ (formed.has_of_arranged ns)

theorem yields_add_back (s : Selection) (own : s.BelongsTo d) :
    (s.addBack none).yields d = some (d.tree.arrange (s.nodes ++ s.earlier)) := by
  obtain ⟨p, d', ran, nodes, tree⟩ := run_previous s d
  rw [← join_nodes_eq s s.earlier d.tree formed own.known own.known_earlier, ← nodes, ← tree]
  refine DocumentM.yields_of_run _ d d'.next (s.derived d' (s.joinNodes p.nodes d'.tree)) ?_
  rw [addBack, EStateM.run_bind, ran]
  exact run_join s p.nodes d'

theorem yields_add_back_filter (s : Selection) (text : String) (own : s.BelongsTo d) :
    (s.addBack (some text)).yields d =
      ((s.previous >>= (·.filter (.ofText text))).yields d).map fun kept =>
        d.tree.arrange (s.nodes ++ kept) := by
  obtain ⟨p, d', ran, nodes, tree⟩ := run_previous s d
  simp only [DocumentM.yields, addBack, EStateM.run_bind, ran, run_filter]
  cases answer : p.tests "filter" (.ofText text) d' with
  | error e => rfl
  | ok answers =>
      have known : ∀ n ∈ p.keep answers true, d.tree.has n := by
        intro n kept
        refine own.known_earlier n ?_
        rw [← nodes]
        exact mem_of_kept p answers true n kept
      have joined := join_nodes_eq s _ d.tree formed own.known known
      rw [← tree] at joined ⊢
      exact congrArg some joined

theorem yields_add (a b : Selection) (ownA : a.BelongsTo d) (ownB : b.BelongsTo d) :
    (a.add (.selection b)).yields d = some (d.tree.arrange (a.nodes ++ b.nodes)) :=
  DocumentM.yields_of_run _ d _ _ (run_add_selection formed a b ownA ownB)

theorem yields_add_nodes (a : Selection) (ns : List NodeId) (own : a.BelongsTo d)
    (known : ∀ n ∈ ns, d.tree.has n) :
    (a.add (.nodes ns)).yields d = some (d.tree.arrange (a.nodes ++ ns)) :=
  DocumentM.yields_of_run _ d _ _ (run_add_nodes formed a ns own known)

theorem yields_add_assoc (a b c : Selection) (ownA : a.BelongsTo d) (ownB : b.BelongsTo d)
    (ownC : c.BelongsTo d) :
    (a.add (.selection b) >>= fun ab => ab.add (.selection c)).yields d =
      (b.add (.selection c) >>= fun bc => a.add (.selection bc)).yields d := by
  have knownAB := fun n member => (List.mem_append.mp member).elim (ownA.known n) (ownB.known n)
  have knownBC := fun n member => (List.mem_append.mp member).elim (ownB.known n) (ownC.known n)
  have left := yields_add (d := d.next) formed _ c
    (joined_belongs formed a (a.nodes ++ b.nodes) ownA) ownC.next
  have right := yields_add (d := d.next) formed a _ ownA.next
    (joined_belongs formed b (b.nodes ++ c.nodes) ownB)
  have whole : d.tree.arrange (d.tree.arrange (a.nodes ++ b.nodes) ++ c.nodes) =
      d.tree.arrange (a.nodes ++ d.tree.arrange (b.nodes ++ c.nodes)) := by
    refine Tree.arrange_congr d.tree _ _ fun n => ?_
    simp only [List.mem_append, formed.mem_arrange _ knownAB, formed.mem_arrange _ knownBC,
      or_assoc]
  rw [DocumentM.yields_bind _ _ d _ _ (run_add_selection formed a b ownA ownB), left,
    DocumentM.yields_bind _ _ d _ _ (run_add_selection formed b c ownB ownC), right]
  exact congrArg some whole

theorem yields_add_twice (a b : Selection) (ownA : a.BelongsTo d) (ownB : b.BelongsTo d) :
    (a.add (.selection b) >>= fun ab => ab.add (.selection ab)).yields d =
      (a.add (.selection b)).yields d := by
  have joined := joined_belongs formed a (a.nodes ++ b.nodes) ownA
  rw [DocumentM.yields_bind _ _ d _ _ (run_add_selection formed a b ownA ownB),
    yields_add (d := d.next) formed _ _ joined joined, yields_add formed a b ownA ownB]
  refine congrArg some (formed.arrange_absorb _ _ joined.known ?_ fun n member => member)
  exact formed.arrange_in_order _

end Operations

theorem unions_are_canonical (d : Document) (a b c : Selection) (ys : List NodeId)
    (formed : d.tree.WellFormed) (ownA : a.BelongsTo d) (ownB : b.BelongsTo d)
    (ownC : c.BelongsTo d) (known : ∀ n ∈ ys, d.tree.has n) :
    -- Each way of merging yields the one arrangement of the nodes of both sides.
    (a.add (.nodes ys)).yields d = some (d.tree.arrange (a.nodes ++ ys)) ∧
    (a.add (.selection b)).yields d = some (d.tree.arrange (a.nodes ++ b.nodes)) ∧
    (a.addBack none).yields d = some (d.tree.arrange (a.nodes ++ a.earlier)) ∧
    (∀ text, (a.addBack (some text)).yields d =
      ((a.previous >>= (·.filter (.ofText text))).yields d).map fun kept =>
        d.tree.arrange (a.nodes ++ kept)) ∧
    -- Nothing but the set of the nodes matters.
    ((∀ n, n ∈ a.nodes ∨ n ∈ b.nodes ↔ n ∈ c.nodes ∨ n ∈ ys) →
      (a.add (.selection b)).yields d = (c.add (.nodes ys)).yields d) ∧
    (a.add (.selection b)).yields d = (b.add (.selection a)).yields d ∧
    (a.add (.selection b) >>= fun ab => ab.add (.selection c)).yields d =
      (b.add (.selection c) >>= fun bc => a.add (.selection bc)).yields d ∧
    (a.add (.selection a)).yields d = some (d.tree.arrange a.nodes) ∧
    (a.add (.selection b) >>= fun ab => ab.add (.selection ab)).yields d =
      (a.add (.selection b)).yields d ∧
    (d.tree.InOrder a.nodes → (∀ n ∈ b.nodes, n ∈ a.nodes) →
      (a.add (.selection b)).yields d = some a.nodes) ∧
    (d.tree.InOrder a.nodes → (∀ n ∈ ys, n ∈ a.nodes) →
      (a.add (.nodes ys)).yields d = some a.nodes) := by
  have same (ns ms : List NodeId) := Tree.arrange_congr d.tree ns ms
  refine ⟨yields_add_nodes formed a ys ownA known, yields_add formed a b ownA ownB,
    yields_add_back formed a ownA, fun text => yields_add_back_filter formed a text ownA, ?_, ?_,
    yields_add_assoc formed a b c ownA ownB ownC, ?_, yields_add_twice formed a b ownA ownB, ?_, ?_⟩
  · intro nodes
    rw [yields_add formed a b ownA ownB, yields_add_nodes formed c ys ownC known,
      same (a.nodes ++ b.nodes) (c.nodes ++ ys)]
    intro n
    rw [List.mem_append, List.mem_append]
    exact nodes n
  · rw [yields_add formed a b ownA ownB, yields_add formed b a ownB ownA,
      same (a.nodes ++ b.nodes) (b.nodes ++ a.nodes)]
    intro n
    rw [List.mem_append, List.mem_append, or_comm]
  · rw [yields_add formed a a ownA ownA, same (a.nodes ++ a.nodes) a.nodes]
    intro n
    rw [List.mem_append, or_self]
  · intro ordered part
    rw [yields_add formed a b ownA ownB,
      formed.arrange_absorb a.nodes b.nodes ownA.known ordered part]
  · intro ordered part
    rw [yields_add_nodes formed a ys ownA known,
      formed.arrange_absorb a.nodes ys ownA.known ordered part]

theorem detached_paragraph_last :
    let element (name : String) : Edit := .create (.element ⟨name, .empty⟩)
    let t := Tree.new.editAll
      [element "p", element "ul", element "li", element "li",
        .append ⟨0⟩ ⟨2⟩, .append ⟨2⟩ ⟨4⟩, .append ⟨2⟩ ⟨3⟩]
    let d : Document := { id := 0, tree := t, reader := default }
    let a : Selection := ⟨0, 2, [⟨1⟩, ⟨3⟩], [⟨1, [⟨3⟩, ⟨2⟩]⟩]⟩
    let b : Selection := ⟨0, 3, [⟨4⟩, ⟨1⟩], []⟩
    d.tree.WellFormed ∧ a.BelongsTo d ∧ b.BelongsTo d ∧
      (a.add (.selection b)).yields d = some [⟨4⟩, ⟨3⟩, ⟨1⟩] ∧
      (a.addBack none).yields d = some [⟨2⟩, ⟨3⟩, ⟨1⟩] := by
  intro element t d a b
  have grown : t.WellFormed := Tree.well_formed_new.well_formed_edit_all _ (by decide +kernel)
  have formed : d.tree.WellFormed := by
    dsimp only [d]
    exact grown
  have ownA : a.BelongsTo d := ⟨rfl, by decide +kernel, by decide +kernel⟩
  have ownB : b.BelongsTo d := ⟨rfl, by decide +kernel, by decide +kernel⟩
  obtain ⟨_, joined, back, _⟩ :=
    unions_are_canonical d a b b [] formed ownA ownB ownB (fun _ none => nomatch none)
  rw [joined, back]
  refine ⟨formed, ownA, ownB, ?_, ?_⟩
  · decide +kernel
  · decide +kernel

end Selection

end DomQuery
