import DomQuery.Proofs.Forest.Growth
import DomQuery.Proofs.Selection.Find

set_option autoImplicit false

namespace DomQuery

structure Tree.Lists (t : Tree) (ns : List NodeId) : Prop where
  distinct : ns.Nodup
  known : ∀ n ∈ ns, t.has n

namespace Tree

theorem lists_nil (t : Tree) : t.Lists [] := ⟨List.nodup_nil, fun _ none => nomatch none⟩

theorem Lists.sublist {t : Tree} {ns ms : List NodeId} (lists : t.Lists ns) (part : ms.Sublist ns) :
    t.Lists ms :=
  ⟨lists.distinct.sublist part, fun n member => lists.known n (part.subset member)⟩

theorem lists_erase_dups (t : Tree) (ns : List NodeId) (known : ∀ n ∈ ns, t.has n) :
    t.Lists ns.eraseDups :=
  ⟨erase_dups_nodup ns, fun n member => known n (List.mem_eraseDups.mp member)⟩

theorem lists_option (t : Tree) (found : Option NodeId) (known : ∀ n, found = some n → t.has n) :
    t.Lists found.toList := by
  cases found with
  | none => exact t.lists_nil
  | some n => exact ⟨List.nodup_singleton n, by simpa using known n rfl⟩

theorem WellFormed.lists_query {t : Tree} (formed : t.WellFormed) (list : Selector.SelectorList)
    (root : NodeId) : t.Lists (list.queryAll t root) :=
  ⟨(formed.descendants_nodup root).filter _, has_of_query formed list root⟩

end Tree

namespace Document

-- The last word stays free.
def HasRoom (d : Document) : Prop := d.tree.size ≤ NodeId.absent.index

instance (d : Document) : Decidable d.HasRoom :=
  inferInstanceAs (Decidable (d.tree.size ≤ NodeId.absent.index))

structure Grows (d later : Document) : Prop where
  id : later.id = d.id
  issued : d.issued ≤ later.issued
  size : d.tree.size ≤ later.tree.size
  formed : d.tree.WellFormed → later.HasRoom → later.tree.WellFormed

namespace Grows

theorem same (d : Document) : d.Grows d := ⟨rfl, Nat.le_refl _, Nat.le_refl _, fun formed _ => formed⟩

theorem next (d : Document) : d.Grows d.next :=
  ⟨rfl, Nat.le_succ _, Nat.le_refl _, fun formed _ => formed⟩

variable {d later : Document} (grown : d.Grows later)

include grown

theorem room (room : later.HasRoom) : d.HasRoom := Nat.le_trans grown.size room

theorem trans {last : Document} (further : later.Grows last) : d.Grows last :=
  ⟨further.id.trans grown.id, Nat.le_trans grown.issued further.issued,
    Nat.le_trans grown.size further.size,
    fun formed room => further.formed (grown.formed formed (further.room room)) room⟩

theorem has (n : NodeId) (known : d.tree.has n) : later.tree.has n := by
  simp only [Tree.has, Bool.and_eq_true, decide_eq_true_eq] at known ⊢
  exact ⟨known.1, Nat.lt_of_lt_of_le known.2 grown.size⟩

theorem belongs (s : Selection) (own : s.BelongsTo d) : s.BelongsTo later :=
  ⟨own.home.trans grown.id.symm, fun n member => grown.has n (own.known n member),
    fun stage member n inside => grown.has n (own.past stage member n inside)⟩

end Grows

end Document

namespace DocumentM

variable {α β : Type}

-- The document grows, and if the operation does not fail what it yields is as `post` says.
inductive Gives (operation : DocumentM α) (d : Document) (post : α → Document → Prop) : Prop
  | ok (a : α) (later : Document) (ran : operation.run d = .ok a later) (grown : d.Grows later)
      (fine : post a later)
  | error (e : LookupError) (later : Document) (ran : operation.run d = .error e later)
      (grown : d.Grows later)

theorem Gives.imp {operation : DocumentM α} {d : Document} {strong weak : α → Document → Prop}
    (gives : operation.Gives d strong) (weaker : ∀ a later, strong a later → weak a later) :
    operation.Gives d weak := by
  cases gives with
  | ok a later ran grown fine => exact .ok a later ran grown (weaker a later fine)
  | error e later ran grown => exact .error e later ran grown

theorem gives_bind (first : DocumentM α) (rest : α → DocumentM β) (d : Document)
    (between : α → Document → Prop) (post : β → Document → Prop) (begun : first.Gives d between)
    (further : ∀ a later, d.Grows later → between a later → (rest a).Gives later post) :
    (first >>= rest).Gives d post := by
  cases begun with
  | error e later ran grown => exact .error e later (by rw [EStateM.run_bind, ran]) grown
  | ok a later ran grown met =>
      have whole : (first >>= rest).run d = (rest a).run later := by rw [EStateM.run_bind, ran]
      cases further a later grown met with
      | ok b last again more fine => exact .ok b last (whole.trans again) (grown.trans more) fine
      | error e last again more => exact .error e last (whole.trans again) (grown.trans more)

theorem gives_look (f : Document → Lookup α) (d : Document) (post : α → Document → Prop)
    (fine : ∀ a, f d = .ok a → post a d) : (look f).Gives d post := by
  have ran := run_look f d
  cases looked : f d with
  | error e => exact .error e d (by rw [ran, looked]) (.same d)
  | ok a => exact .ok a d (by rw [ran, looked]) (.same d) (fine a looked)

theorem gives_look_bind (f : Document → Lookup α) (rest : α → DocumentM β) (d : Document)
    (post : β → Document → Prop) (fine : ∀ a, f d = .ok a → (rest a).Gives d post) :
    (look f >>= rest).Gives d post := by
  apply gives_bind _ _ d fun a later => f d = .ok a ∧ later = d
  · exact gives_look f d _ fun a looked => ⟨looked, rfl⟩
  · rintro a later _ ⟨looked, rfl⟩
    exact fine a looked

theorem gives_get_bind (rest : Document → DocumentM β) (d : Document)
    (post : β → Document → Prop) (fine : (rest d).Gives d post) : (get >>= rest).Gives d post := by
  apply gives_bind _ _ d fun e later => e = d ∧ later = d
  · exact .ok d d rfl (.same d) ⟨rfl, rfl⟩
  · rintro _ _ _ ⟨rfl, rfl⟩
    exact fine

theorem run_grow (markup : String) (d : Document) :
    (grow markup).run d = .ok (d.reader.parseFragment d.config d.tree markup).2
      { d with tree := (d.reader.parseFragment d.config d.tree markup).1 } := rfl

theorem gives_grow (markup : String) (d : Document) :
    (grow markup).Gives d fun roots later => later.HasRoom → later.tree.Lists roots := by
  have ran := run_grow markup d
  obtain ⟨becomes, fresh⟩ :=
    Markup.graft_roots_fresh d.config d.tree (d.reader.fragmentSources markup)
  refine .ok _ _ ran ⟨rfl, Nat.le_refl _, becomes.size_le, becomes.well_formed⟩ fun room => ?_
  obtain ⟨ordered, inside⟩ := fresh room
  refine ⟨ordered.imp fun {a b} less same => ?_, fun r member => ?_⟩
  · rw [same] at less
    exact Nat.lt_irrefl _ less
  · exact (Tree.has_iff _ r room).mpr (inside r member).2

end DocumentM

namespace Document

def Admits (d : Document) (operand : Operand) : Prop :=
  ∀ s, operand = .selection s → s.document = d.id → ∀ n ∈ s.nodes, d.tree.has n

variable {d : Document}

theorem known_ok (ns ms : List NodeId) (answer : d.known ns = .ok ms) :
    ms = ns ∧ ∀ n ∈ ns, d.tree.has n := by
  rw [known] at answer
  split at answer
  · cases answer
  · next none =>
      exact ⟨(Except.ok.inj answer).symm, by simpa using none⟩

theorem known_of_nodes_of (formed : d.tree.WellFormed) (operation : String) (operand : Operand)
    (ns : List NodeId) (admitted : d.Admits operand)
    (answer : d.nodesOf operation operand = .ok ns) : ∀ n ∈ ns, d.tree.has n := by
  cases operand with
  | selector text =>
      obtain ⟨list, _, made⟩ := Selector.ok_of_bind answer
      rw [← Except.ok.inj made]
      exact has_of_query formed list .document
  | markup text => cases answer
  | node n =>
      obtain ⟨rfl, known⟩ := known_ok [n] ns answer
      exact known
  | nodes given =>
      obtain ⟨rfl, known⟩ := known_ok given ns answer
      exact known
  | selection s =>
      rw [nodesOf, own] at answer
      split at answer
      · next home =>
          rw [← Except.ok.inj answer]
          exact admitted s rfl home
      · cases answer

end Document

namespace DocumentM

theorem gives_resolve (operation : String) (operand : Operand) (d : Document)
    (formed : d.tree.WellFormed) : (resolve operation operand).Gives d fun ns later =>
      d.Admits operand → later.HasRoom → ∀ n ∈ ns, later.tree.has n := by
  have looked : (look (·.nodesOf operation operand)).Gives d fun ns later =>
      d.Admits operand → later.HasRoom → ∀ n ∈ ns, later.tree.has n := by
    apply gives_look
    intro ns answer admitted _
    exact Document.known_of_nodes_of formed operation operand ns admitted answer
  cases operand with
  | markup text =>
      exact (gives_grow text d).imp fun _ _ lists _ room => (lists room).known
  | selector _ => exact looked
  | node _ => exact looked
  | nodes _ => exact looked
  | selection _ => exact looked

theorem gives_select_in_nodes (text : String) (operand : Operand) (d : Document)
    (formed : d.tree.WellFormed) :
    (Document.selectInNodes text operand).Gives d fun ns later =>
      later.HasRoom → later.tree.Lists ns := by
  apply gives_look_bind
  intro list _
  apply gives_bind _ _ d _ _ (gives_resolve "select_in" operand d formed)
  intro scopes later grown _
  apply gives_get_bind
  refine .ok _ later rfl (.same later) fun room => ?_
  apply later.tree.lists_erase_dups
  intro m member
  obtain ⟨n, _, below⟩ := List.mem_flatMap.mp member
  exact has_of_query (grown.formed formed room) list n m below

end DocumentM

end DomQuery
