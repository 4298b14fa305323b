import DomQuery.Proofs.Selection.Effect
import DomQuery.Selection.Visit

set_option autoImplicit false

namespace DomQuery

open Selector (ok_of_bind)

inductive Derivation where
  | find (operand : Operand)
  | descendants
  | contents
  | children (filter : Option String)
  | next (filter : Option String)
  | prev (filter : Option String)
  | nextAll (filter : Option String)
  | prevAll (filter : Option String)
  | nextUntil (extent : Extent) (filter : Option String)
  | prevUntil (extent : Extent) (filter : Option String)
  | siblings (filter : Option String)
  | parent (filter : Option String)
  | parents (filter : Option String)
  | parentsUntil (extent : Extent) (filter : Option String)
  | closest (selector : Option String)
  | filter (criterion : Criterion)
  | not (criterion : Criterion)
  | has (operand : Operand)
  | atIndex (index : Int)
  | first
  | last
  | slice (first : Int) (last : Option Int)
  | add (operand : Operand)
  | addIn (text : String) (operand : Operand)
  | addBack (filter : Option String)
  | map (f : Nat → NodeId → List NodeId)

def Derivation.run (s : Selection) : Derivation → DocumentM Selection
  | .find operand => s.find operand
  | .descendants => s.descendants
  | .contents => s.contents
  | .children text? => s.children text?
  | .next text? => s.next text?
  | .prev text? => s.prev text?
  | .nextAll text? => s.nextAll text?
  | .prevAll text? => s.prevAll text?
  | .nextUntil extent text? => s.nextUntil extent text?
  | .prevUntil extent text? => s.prevUntil extent text?
  | .siblings text? => s.siblings text?
  | .parent text? => s.parent text?
  | .parents text? => s.parents text?
  | .parentsUntil extent text? => s.parentsUntil extent text?
  | .closest selector => s.closest selector
  | .filter criterion => s.filter criterion
  | .not criterion => s.not criterion
  | .has operand => s.has operand
  | .atIndex index => s.atIndex index
  | .first => s.first
  | .last => s.last
  | .slice start stop? => s.slice start stop?
  | .add operand => s.add operand
  | .addIn text operand => s.addIn text operand
  | .addBack text? => s.addBack text?
  | .map f => (s.map f).toSelection

-- The operand whose nodes can come into the result. Any other one is a test, or a place to search.
def Derivation.operand? : Derivation → Option Operand
  | .find operand | .add operand => some operand
  | _ => none

namespace Selection

def origin? (s : Selection) : Option Selection :=
  match s.history with
  | [] => none
  | stage :: history => some ⟨s.document, stage.serial, stage.nodes, history⟩

theorem run_previous_origin (s origin : Selection) (d : Document) (found : s.origin? = some origin) :
    s.previous.run d = .ok origin d := by
  rw [origin?] at found
  rw [previous]
  cases history : s.history with
  | nil => simp [history] at found
  | cons stage stages =>
      simp only [history, Option.some.injEq] at found
      rw [← found]
      rfl

structure Fresh (d : Document) (origin : Option Selection) (r : Selection) (later : Document) :
    Prop where
  lower : d.issued ≤ r.serial
  upper : r.serial < later.issued
  origin : r.origin? = origin
  own : later.HasRoom → r.BelongsTo later
  distinct : later.HasRoom → r.nodes.Nodup

theorem gives_issue (d later : Document) (ns : List NodeId) (grown : d.Grows later)
    (fine : later.HasRoom → later.tree.Lists ns) :
    (DocumentM.issue ns []).Gives later (Fresh d none) := by
  refine .ok ⟨later.id, later.issued, ns, []⟩ later.next rfl (.next later) ?_
  exact ⟨grown.issued, Nat.lt_succ_self _, rfl,
    fun room => ⟨rfl, (fine room).known, fun _ none => nomatch none⟩,
    fun room => (fine room).distinct⟩

section Chain

variable {s : Selection} {d : Document} (own : s.BelongsTo d)

include own

theorem gives_chain (later : Document) (ns : List NodeId) (grown : d.Grows later)
    (fine : later.HasRoom → later.tree.Lists ns) :
    (s.chain ns).Gives later (Fresh d (some s)) := by
  refine .ok (s.derived later ns) later.next rfl (.next later) ?_
  refine ⟨grown.issued, Nat.lt_succ_self _, ?_, fun room => ?_, fun room => (fine room).distinct⟩
  · rw [origin?, derived, stage, grown.id, ← own.home]
  · exact (grown.belongs s own).derived ns (fine room).known

theorem gives_chain_now (ns : List NodeId) (fine : d.tree.Lists ns) :
    (s.chain ns).Gives d (Fresh d (some s)) :=
  gives_chain own d ns (.same d) fun _ => fine

theorem gives_looked (f : Document → Lookup (List NodeId))
    (fine : ∀ ns, f d = .ok ns → d.tree.Lists ns) :
    (DocumentM.look f >>= s.chain).Gives d (Fresh d (some s)) :=
  DocumentM.gives_look_bind f _ d _ fun ns found => gives_chain_now own ns (fine ns found)

end Chain

end Selection

namespace Tree.WellFormed

variable {t : Tree} (formed : t.WellFormed)

include formed

theorem lists_children (ns : List NodeId) (distinct : ns.Nodup) :
    t.Lists (ns.flatMap t.children) := by
  refine ⟨?_, fun n member => ?_⟩
  · refine List.nodup_flatMap.mpr ⟨fun p _ => (formed.row_children p).distinct, ?_⟩
    refine distinct.imp fun {p q} apart n first second => apart ?_
    rw [formed.mem_children] at first second
    exact Option.some.inj (first.symm.trans second)
  · obtain ⟨p, _, child⟩ := List.mem_flatMap.mp member
    exact formed.has_child n p ((formed.mem_children p n).mp child)

end Tree.WellFormed

theorem Document.lists_gathered (d : Document) (inputs ns : List NodeId) (filter : Option String)
    (walk : NodeId → List NodeId) (near : ∀ n ∈ inputs, ∀ m ∈ walk n, d.tree.has m)
    (found : d.gather inputs filter walk = .ok ns) : d.tree.Lists ns := by
  have all : d.tree.Lists (inputs.flatMap walk).eraseDups := by
    apply d.tree.lists_erase_dups
    intro m member
    obtain ⟨n, input, reached⟩ := List.mem_flatMap.mp member
    exact near n input m reached
  obtain ⟨list?, _, made⟩ := ok_of_bind found
  rw [← Except.ok.inj made]
  cases list? with
  | none => exact all
  | some list => exact all.sublist List.filter_sublist

namespace Selection

theorem zip_fst_sublist (ns : List NodeId) (answers : List Bool) :
    ((ns.zip answers).map Prod.fst).Sublist ns := by
  induction ns generalizing answers with
  | nil => exact List.nil_sublist _
  | cons n ns ih =>
      cases answers with
      | nil => exact List.nil_sublist _
      | cons answer answers => exact (ih answers).cons_cons n

theorem keep_sublist (s : Selection) (answers : List Bool) (wanted : Bool) :
    (s.keep answers wanted).Sublist s.nodes :=
  (List.filter_sublist.map _).trans (zip_fst_sublist s.nodes answers)

theorem lists_joined (s : Selection) (extra : List NodeId) (t : Tree)
    (own : ∀ n ∈ s.nodes, t.has n) (known : ∀ n ∈ extra, t.has n) :
    t.Lists (s.joinNodes extra t) := by
  have all : t.Lists (s.nodes ++ extra).eraseDups := by
    apply t.lists_erase_dups
    intro n member
    exact (List.mem_append.mp member).elim (own n) (known n)
  have sorted : (s.joinNodes extra t).Perm (s.nodes ++ extra).eraseDups := List.mergeSort_perm _ _
  exact ⟨sorted.nodup_iff.mpr all.distinct, fun n member => all.known n (sorted.mem_iff.mp member)⟩

section Derive

variable {s : Selection} {d : Document} (own : s.BelongsTo d)

include own

theorem gives_walk (inputs : List NodeId) (filter : Option String) (step : Tree → NodeId → List NodeId)
    (near : ∀ n ∈ inputs, ∀ m ∈ step d.tree n, d.tree.has m) :
    (s.walk inputs filter step).Gives d (Fresh d (some s)) :=
  gives_looked own _ fun ns found => d.lists_gathered inputs ns filter _ near found

theorem gives_walk_until (inputs : List NodeId) (extent : Extent) (filter : Option String)
    (step : Tree → NodeId → List NodeId) (near : ∀ n, ∀ m ∈ step d.tree n, d.tree.has m) :
    (s.walkUntil inputs extent filter step).Gives d (Fresh d (some s)) := by
  apply gives_looked own
  intro ns found
  obtain ⟨ends, _, gathered⟩ := ok_of_bind found
  refine d.lists_gathered inputs ns filter _ (fun n _ m member => near n m ?_) gathered
  exact (List.takeWhile_sublist _).subset (List.mem_filter.mp member).1

theorem gives_join (later : Document) (extra : List NodeId) (grown : d.Grows later)
    (known : later.HasRoom → ∀ n ∈ extra, later.tree.has n) :
    (s.join extra).Gives later (Fresh d (some s)) := by
  apply DocumentM.gives_get_bind
  exact gives_chain own later _ grown fun room =>
    lists_joined s extra later.tree (fun n member => grown.has n (own.known n member)) (known room)

theorem gives_first_beside (filter : Option String) (beside : Tree → NodeId → List NodeId)
    (near : ∀ n, ∀ m ∈ beside d.tree n, d.tree.has m) :
    (s.walk s.nodes filter fun t n => ((beside t n).find? t.isElement).toList).Gives d
      (Fresh d (some s)) := by
  apply gives_walk own
  intro n _ m member
  exact near n m (List.mem_of_find?_eq_some (Option.mem_toList.mp member))

theorem gives_all_beside (inputs : List NodeId) (filter : Option String)
    (beside : Tree → NodeId → List NodeId) (near : ∀ n, ∀ m ∈ beside d.tree n, d.tree.has m) :
    (s.walk inputs filter fun t n => (beside t n).filter t.isElement).Gives d
      (Fresh d (some s)) := by
  apply gives_walk own
  intro n _ m member
  exact near n m (List.mem_filter.mp member).1

theorem gives_mapped (f : Nat → NodeId → List NodeId) :
    ((s.map f).toSelection).Gives d (Fresh d (some s)) := by
  apply DocumentM.gives_look_bind
  intro ns answer
  obtain ⟨rfl, known⟩ := Document.known_ok _ ns answer
  exact gives_chain_now own _ (d.tree.lists_erase_dups _ known)

theorem gives_at_index (index : Int) : (s.atIndex index).Gives d (Fresh d (some s)) := by
  apply gives_chain_now own
  apply d.tree.lists_option
  intro n found
  obtain ⟨place, _, there⟩ := Option.bind_eq_some_iff.mp found
  exact own.known n (List.mem_of_getElem? there)

theorem gives_previous : s.previous.Gives d fun p later => ∀ n ∈ p.nodes, later.tree.has n := by
  rw [previous]
  cases history : s.history with
  | nil => exact .ok ⟨d.id, d.issued, [], []⟩ d.next rfl (.next d) (by simp)
  | cons stage stages =>
      have known := own.past stage (by simp [history])
      exact .ok ⟨s.document, stage.serial, stage.nodes, stages⟩ d rfl (.same d) known

omit own in
theorem gives_kept (criterion : Criterion) :
    (s.filter criterion).Gives d fun kept _ => ∀ n ∈ kept.nodes, n ∈ s.nodes := by
  apply DocumentM.gives_look_bind
  intro answers _
  exact .ok (s.derived d (s.keep answers true)) d.next rfl (.next d) (mem_of_kept s answers true)

-- What is added back may have been filtered, which makes a selection of its own.
theorem gives_add_back (filter : Option String) :
    (s.addBack filter).Gives d (Fresh d (some s)) := by
  apply DocumentM.gives_bind _ _ d _ _ (gives_previous own)
  intro p middle grown known
  cases filter with
  | none => exact gives_join own middle p.nodes grown fun _ => known
  | some text =>
      apply DocumentM.gives_bind _ _ middle _ _ (gives_kept (.ofText text))
      intro kept later further part
      exact gives_join own later kept.nodes (grown.trans further) fun _ n member =>
        further.has n (known n (part n member))

section Part

variable (distinct : s.nodes.Nodup)

include distinct

theorem gives_part (ns : List NodeId) (part : ns.Sublist s.nodes) :
    (s.chain ns).Gives d (Fresh d (some s)) := by
  have lists : d.tree.Lists s.nodes := ⟨distinct, own.known⟩
  exact gives_chain_now own ns (lists.sublist part)

theorem gives_tested (operation : String) (criterion : Criterion) (wanted : Bool) :
    (DocumentM.look (s.tests operation criterion) >>= fun answers =>
      s.chain (s.keep answers wanted)).Gives d (Fresh d (some s)) :=
  DocumentM.gives_look_bind _ _ d _ fun answers _ =>
    gives_part own distinct _ (s.keep_sublist answers wanted)

theorem gives_has (operand : Operand) : (s.has operand).Gives d (Fresh d (some s)) := by
  apply DocumentM.gives_look_bind
  intro ns found
  apply gives_part own distinct
  cases operand with
  | selector _ | markup _ | node _ | nodes _ | selection _ =>
      obtain ⟨_, _, made⟩ := ok_of_bind found
      rw [← Except.ok.inj made]
      exact List.filter_sublist

theorem gives_slice (first : Int) (last : Option Int) :
    (s.slice first last).Gives d (Fresh d (some s)) :=
  gives_part own distinct _ ((List.drop_sublist _ _).trans (List.take_sublist _ _))

end Part

section Formed

variable (formed : d.tree.WellFormed)

include formed

theorem gives_find (operand : Operand) (admitted : d.Admits operand) :
    (s.find operand).Gives d (Fresh d (some s)) := by
  apply gives_looked own
  intro ns found
  cases operand with
  | selector text =>
      obtain ⟨list, _, made⟩ := ok_of_bind found
      rw [← Except.ok.inj made]
      apply d.tree.lists_erase_dups
      intro m member
      obtain ⟨n, _, below⟩ := List.mem_flatMap.mp member
      exact has_of_query formed list n m below
  | markup _ | node _ | nodes _ | selection _ =>
      obtain ⟨candidates, answer, made⟩ := ok_of_bind found
      rw [← Except.ok.inj made]
      apply d.tree.lists_erase_dups
      intro n member
      exact Document.known_of_nodes_of formed "find" _ candidates admitted answer n
        (List.mem_filter.mp member).1

theorem gives_descendants : s.descendants.Gives d (Fresh d (some s)) := by
  apply DocumentM.gives_get_bind
  apply gives_chain_now own
  apply d.tree.lists_erase_dups
  intro m member
  obtain ⟨n, _, below⟩ := List.mem_flatMap.mp (List.mem_filter.mp member).1
  exact formed.has_descendant n m below

theorem gives_contents (distinct : s.nodes.Nodup) : s.contents.Gives d (Fresh d (some s)) := by
  apply DocumentM.gives_get_bind
  exact gives_chain_now own _ (formed.lists_children s.nodes distinct)

theorem gives_siblings (filter : Option String) : (s.siblings filter).Gives d (Fresh d (some s)) := by
  apply gives_walk own
  intro n _ m member
  cases parent : d.tree.parent n with
  | none => simp [parent] at member
  | some p =>
      simp only [parent, List.mem_filter] at member
      exact formed.has_element_child p m member.1

theorem gives_parent (filter : Option String) : (s.parent filter).Gives d (Fresh d (some s)) := by
  apply gives_walk own
  intro n _ m member
  have parent := (Option.filter_eq_some_iff.mp (Option.mem_toList.mp member)).1
  exact formed.has_parent n m parent

theorem gives_closest (selector : Option String) :
    (s.closest selector).Gives d (Fresh d (some s)) := by
  cases selector with
  | none => exact gives_chain_now own [] d.tree.lists_nil
  | some text =>
      apply DocumentM.gives_look_bind
      intro list _
      apply gives_walk own
      intro n input m member
      have found := List.mem_of_find?_eq_some (Option.mem_toList.mp member)
      rcases List.mem_cons.mp found with here | above
      · rw [here]
        exact own.known n input
      · exact formed.has_ancestor m n above

theorem gives_add (operand : Operand) (admitted : d.Admits operand) :
    (s.add operand).Gives d (Fresh d (some s)) := by
  apply DocumentM.gives_bind _ _ d _ _ (DocumentM.gives_resolve "add" operand d formed)
  intro extra later grown known
  exact gives_join own later extra grown (known admitted)

theorem gives_add_in (text : String) (operand : Operand) :
    (s.addIn text operand).Gives d (Fresh d (some s)) := by
  apply DocumentM.gives_bind _ _ d _ _ (DocumentM.gives_select_in_nodes text operand d formed)
  intro extra later grown lists
  exact gives_join own later extra grown fun room => (lists room).known

end Formed

end Derive

end Selection

theorem gives_derivation (s : Selection) (d : Document) (own : s.BelongsTo d)
    (distinct : s.nodes.Nodup) (formed : d.tree.WellFormed) (derivation : Derivation)
    (admitted : ∀ operand, derivation.operand? = some operand → d.Admits operand) :
    (derivation.run s).Gives d (Selection.Fresh d (some s)) := by
  open Selection in
  cases derivation with
  | find operand => exact gives_find own formed operand (admitted operand rfl)
  | descendants => exact gives_descendants own formed
  | contents => exact gives_contents own formed distinct
  | children text? =>
      exact gives_walk own _ text? _ fun n _ m found => formed.has_element_child n m found
  | next text? => exact gives_first_beside own text? Tree.followingSiblings formed.has_following
  | prev text? => exact gives_first_beside own text? Tree.precedingSiblings formed.has_preceding
  | nextAll text? =>
      exact gives_all_beside own _ text? Tree.followingSiblings formed.has_following
  | prevAll text? =>
      exact gives_all_beside own _ text? Tree.precedingSiblings formed.has_preceding
  | nextUntil extent text? => exact gives_walk_until own _ extent text? _ formed.has_following
  | prevUntil extent text? => exact gives_walk_until own _ extent text? _ formed.has_preceding
  | siblings text? => exact gives_siblings own formed text?
  | parent text? => exact gives_parent own formed text?
  | parents text? =>
      exact gives_all_beside own _ text? Tree.ancestors fun n m => formed.has_ancestor m n
  | parentsUntil extent text? =>
      exact gives_walk_until own _ extent text? _ fun n m => formed.has_ancestor m n
  | closest selector => exact gives_closest own formed selector
  | filter criterion => exact gives_tested own distinct "filter" criterion true
  | not criterion => exact gives_tested own distinct "not" criterion false
  | has operand => exact gives_has own distinct operand
  | atIndex index => exact gives_at_index own index
  | first => exact gives_at_index own 0
  | last => exact gives_at_index own (-1)
  | slice start stop? => exact gives_slice own distinct start stop?
  | add operand => exact gives_add own formed operand (admitted operand rfl)
  | addIn text operand => exact gives_add_in own formed text operand
  | addBack text? => exact gives_add_back own text?
  | map f => exact gives_mapped own f

end DomQuery
