import DomQuery.Proofs.Forest.Frame
import DomQuery.Proofs.Selection.Session

set_option autoImplicit false

namespace DomQuery

namespace Document

-- The same document, in which further selections may have been issued.
def Untouched (d later : Document) : Prop := later = { d with issued := later.issued }

def Brought (markup? : Option String) (d later : Document) : Prop :=
  match markup? with
  | some markup =>
      later = { d with
        tree := (d.reader.parseFragment d.config d.tree markup).1, issued := later.issued }
  | none => d.Untouched later

theorem Untouched.trans {d later last : Document} (first : d.Untouched later)
    (second : later.Untouched last) : d.Untouched last := by
  rw [Untouched] at first second ⊢
  rw [second, first]

theorem Brought.untouched {markup? : Option String} {d later last : Document}
    (first : d.Brought markup? later) (second : later.Untouched last) : d.Brought markup? last := by
  cases markup? with
  | none => exact Untouched.trans first second
  | some markup =>
      have grown : later = { d with
        tree := (d.reader.parseFragment d.config d.tree markup).1, issued := later.issued } := first
      rw [Untouched, grown] at second
      exact second

end Document

namespace DocumentM

variable {α β : Type}

-- If it succeeds, the nodes of the markup have come and nothing else is new; if it fails, nothing is.
structure Brings (operation : DocumentM α) (markup? : Option String) : Prop where
  ends : ∀ d, match operation.run d with
    | .ok _ later => d.Brought markup? later
    | .error _ later => d.Untouched later

-- It never fails and leaves the tree as it is.
def Sure (operation : DocumentM α) : Prop :=
  ∀ d, ∃ a later, operation.run d = .ok a later ∧ d.Untouched later

theorem sure_pure (a : α) : (pure a : DocumentM α).Sure := fun d => ⟨a, d, rfl, rfl⟩

theorem sure_issue (nodes : List NodeId) (history : List Stage) : (issue nodes history).Sure :=
  fun d => ⟨_, d.next, rfl, rfl⟩

theorem sure_get_bind (rest : Document → DocumentM β) (further : ∀ d, (rest d).Sure) :
    (get >>= rest).Sure := fun d => further d d

theorem Sure.brings {operation : DocumentM α} (sure : operation.Sure) : operation.Brings none := by
  refine ⟨fun d => ?_⟩
  obtain ⟨a, later, ran, untouched⟩ := sure d
  rw [ran]
  exact untouched

theorem brings_bind (first : DocumentM α) (rest : α → DocumentM β) (begun : first.Brings none)
    (further : ∀ a, (rest a).Brings none) : (first >>= rest).Brings none := by
  refine ⟨fun d => ?_⟩
  have before := begun.ends d
  rw [EStateM.run_bind]
  cases ran : first.run d with
  | error e later =>
      rw [ran] at before
      exact before
  | ok a later =>
      rw [ran] at before
      have after := (further a).ends later
      dsimp only
      cases again : (rest a).run later <;> rw [again] at after <;> exact before.trans after

theorem brings_bind_sure (first : DocumentM α) (rest : α → DocumentM β) (markup? : Option String)
    (begun : first.Brings markup?) (further : ∀ a, (rest a).Sure) :
    (first >>= rest).Brings markup? := by
  refine ⟨fun d => ?_⟩
  have before := begun.ends d
  rw [EStateM.run_bind]
  cases ran : first.run d with
  | error e later =>
      rw [ran] at before
      exact before
  | ok a later =>
      obtain ⟨b, last, again, after⟩ := further a later
      rw [ran] at before
      dsimp only
      rw [again]
      exact before.untouched after

theorem brings_look_bind (f : Document → Lookup α) (rest : α → DocumentM β)
    (markup? : Option String) (further : ∀ a, (rest a).Brings markup?) :
    (look f >>= rest).Brings markup? := by
  refine ⟨fun d => ?_⟩
  rw [EStateM.run_bind, run_look]
  cases f d with
  | error e => exact rfl
  | ok a => exact (further a).ends d

theorem brings_look (f : Document → Lookup α) : (look f).Brings none := by
  refine ⟨fun d => ?_⟩
  rw [run_look]
  cases f d <;> exact rfl

theorem brings_grow (markup : String) : (grow markup).Brings (some markup) := by
  constructor
  intro d
  rw [run_grow]
  exact rfl

end DocumentM

def Operand.markup? : Operand → Option String
  | .markup text => some text
  | _ => none

def Derivation.markup? : Derivation → Option String
  | .add operand | .addIn _ operand => operand.markup?
  | _ => none

namespace Call

def markup? : Call → Option String
  | fragment markup => some markup
  | selectIn _ operand => operand.markup?
  | derive _ derivation => derivation.markup?
  | _ => none

def styled : Call → List NodeId
  | setCss s _ _ | setCssAll s _ | setCssWith s _ _ => s.nodes
  | _ => []

end Call

open DocumentM

theorem brings_resolve (operation : String) (operand : Operand) :
    (resolve operation operand).Brings operand.markup? := by
  cases operand with
  | markup text => exact brings_grow text
  | selector _ | node _ | nodes _ | selection _ => exact brings_look _

-- The selector is read before any markup is.
theorem brings_select_in_nodes (text : String) (operand : Operand) :
    (Document.selectInNodes text operand).Brings operand.markup? := by
  apply brings_look_bind
  intro list
  apply brings_bind_sure _ _ _ (brings_resolve "select_in" operand)
  intro scopes
  exact sure_get_bind _ fun _ => sure_pure _

namespace Selection

variable (s : Selection)

theorem sure_chain (nodes : List NodeId) : (s.chain nodes).Sure := sure_issue nodes _

theorem sure_join (extra : List NodeId) : (s.join extra).Sure :=
  sure_get_bind _ fun _ => sure_chain s _

theorem sure_previous : s.previous.Sure := by
  rw [previous]
  cases s.history with
  | nil => exact sure_issue [] []
  | cons stage history => exact sure_pure _

theorem brings_looked (f : Document → Lookup (List NodeId)) : (look f >>= s.chain).Brings none :=
  brings_look_bind _ _ _ fun nodes => (sure_chain s nodes).brings

theorem brings_kept (operation : String) (criterion : Criterion) (wanted : Bool) :
    (look (s.tests operation criterion) >>= fun answers => s.chain (s.keep answers wanted)).Brings
      none :=
  brings_look_bind _ _ _ fun _ => (sure_chain s _).brings

theorem brings_closest (selector : Option String) : (s.closest selector).Brings none := by
  cases selector with
  | none => exact (sure_chain s []).brings
  | some text => exact brings_look_bind _ _ _ fun _ => brings_looked s _

theorem brings_add_back (filter : Option String) : (s.addBack filter).Brings none := by
  apply brings_bind _ _ (sure_previous s).brings
  intro earlier
  cases filter with
  | none => exact (sure_join s _).brings
  | some text =>
      exact brings_bind_sure _ _ _ (brings_kept earlier "filter" _ true) fun _ => sure_join s _

end Selection

theorem brings_derivation (s : Selection) (derivation : Derivation) :
    (derivation.run s).Brings derivation.markup? := by
  open Selection in
  cases derivation with
  | find operand => exact brings_looked s _
  | descendants | contents => exact (sure_get_bind _ fun _ => sure_chain s _).brings
  | children _ | next _ | prev _ | nextAll _ | prevAll _ | siblings _ | parent _ | parents _ =>
      exact brings_looked s _
  | nextUntil _ _ | prevUntil _ _ | parentsUntil _ _ => exact brings_looked s _
  | closest selector => exact brings_closest s selector
  | filter criterion => exact brings_kept s "filter" criterion true
  | not criterion => exact brings_kept s "not" criterion false
  | has operand => exact brings_looked s _
  | atIndex _ | first | last | slice _ _ => exact (sure_chain s _).brings
  | add operand => exact brings_bind_sure _ _ _ (brings_resolve "add" operand) fun _ => sure_join s _
  | addIn text operand =>
      exact brings_bind_sure _ _ _ (brings_select_in_nodes text operand) fun _ => sure_join s _
  | addBack filter => exact brings_add_back s filter
  | map f => exact brings_look_bind _ _ _ fun _ => (sure_chain s _).brings

-- Every call either brings its markup, if it has any, or sets styles and cannot fail.
theorem brings_or_styles (call : Call) :
    call.run.Brings call.markup? ∨ call.markup? = none ∧ ∃ f, ∀ d, ∃ s,
      call.run.run d = .ok s { d with tree := Id.run (d.tree.restyle f call.styled.zipIdx) } := by
  have issued (nodes : List NodeId) : (issue nodes []).Sure := sure_issue nodes []
  cases call with
  | root => exact Or.inl (issued _).brings
  | empty => exact Or.inl (issued _).brings
  | select _ | wrap _ => exact Or.inl (brings_look_bind _ _ _ fun _ => (issued _).brings)
  | selectIn text operand =>
      exact Or.inl (brings_bind_sure _ _ _ (brings_select_in_nodes text operand) fun _ => issued _)
  | fragment markup => exact Or.inl (brings_bind_sure _ _ _ (brings_grow markup) fun _ => issued _)
  | derive s derivation => exact Or.inl (brings_derivation s derivation)
  | previous s => exact Or.inl (Selection.sure_previous s).brings
  | setCss s _ _ | setCssAll s _ | setCssWith s _ _ => exact Or.inr ⟨rfl, _, fun d => ⟨s, rfl⟩⟩

section Outcomes

variable (call : Call) (d later : Document)

theorem failed_untouched (e : LookupError) (ran : call.run.run d = .error e later) :
    d.Untouched later := by
  rcases brings_or_styles call with brings | ⟨_, f, styles⟩
  · have ends := brings.ends d
    rwa [ran] at ends
  · obtain ⟨s, done⟩ := styles d
    cases ran.symm.trans done

theorem succeeded_cases (s : Selection) (ran : call.run.run d = .ok s later) :
    d.Brought call.markup? later ∨ call.markup? = none ∧
      ∃ f, later = { d with tree := Id.run (d.tree.restyle f call.styled.zipIdx) } := by
  rcases brings_or_styles call with brings | ⟨plain, f, styles⟩
  · have ends := brings.ends d
    rw [ran] at ends
    exact Or.inl ends
  · obtain ⟨r, done⟩ := styles d
    obtain ⟨_, same⟩ := (EStateM.Result.ok.injEq ..).mp (ran.symm.trans done)
    exact Or.inr ⟨plain, f, same⟩

end Outcomes

inductive Question where
  | is (s : Selection) (criterion : Criterion)
  | index (s : Selection)
  | indexOf (s : Selection) (operand : Operand)
  | attr (s : Selection) (name : String)
  | text (s : Selection)
  | css (s : Selection) (name : String)
  | cssMany (s : Selection) (names : List String)
  | style (s : Selection)

namespace Question

def Answer : Question → Type
  | is .. => Bool
  | index _ | indexOf .. => Option Nat
  | attr .. | css .. => Option String
  | text _ => String
  | cssMany .. | style _ => Option Style.Declarations

def ask : (question : Question) → DocumentM question.Answer
  | is s criterion => s.is criterion
  | index s => s.index
  | indexOf s operand => s.indexOf operand
  | attr s name => s.attr? name
  | text s => s.text
  | css s name => s.css? name
  | cssMany s names => s.cssMany? names
  | style s => s.firstStyle?

end Question

theorem brings_question (question : Question) : question.ask.Brings none := by
  cases question with
  | is s criterion => exact brings_look_bind _ _ _ fun _ => (sure_pure _).brings
  | indexOf s operand => exact brings_look _
  | index _ | attr _ _ | text _ | css _ _ | cssMany _ _ | style _ =>
      exact (sure_get_bind _ fun _ => sure_pure _).brings

theorem keeps_brought (markup : String) (d later : Document) (room : later.HasRoom)
    (brought : d.Brought (some markup) later) : d.tree.Keeps later.tree [] := by
  have grown : later.tree = (d.reader.parseFragment d.config d.tree markup).1 := by
    rw [show later = _ from brought]
  rw [Document.HasRoom, grown] at room
  rw [grown]
  exact (Markup.extends_graft_roots d.config d.tree (.same d.tree) _ room).keeps

theorem keeps_call (call : Call) (d later : Document) (s : Selection)
    (ran : call.run.run d = .ok s later) (room : call.markup?.isSome → later.HasRoom) :
    d.tree.Keeps later.tree call.styled := by
  rcases succeeded_cases call d later s ran with brought | ⟨_, f, styled⟩
  · cases found : call.markup? with
    | some markup =>
        rw [found] at brought room
        exact (keeps_brought markup d later (room rfl) brought).more _
    | none =>
        rw [found] at brought
        have same : later.tree = d.tree := by rw [show later = _ from brought]
        rw [same]
        exact (Tree.Extends.same d.tree).keeps.more _
  · have kept := d.tree.keeps_restyle f call.styled.zipIdx
    rw [List.zipIdx_map_fst] at kept
    rwa [styled]

theorem size_call (call : Call) (d later : Document) (s : Selection)
    (ran : call.run.run d = .ok s later) (plain : call.markup? = none) :
    later.tree.size = d.tree.size := by
  rcases succeeded_cases call d later s ran with brought | ⟨_, f, styled⟩
  · rw [plain] at brought
    rw [show later = _ from brought]
  · rw [styled]
    exact (d.tree.links_restyle f call.styled.zipIdx).1

-- Only where new nodes come must the arena have room for them.
theorem calls_change_only_their_own (d : Document) :
    (∀ (call : Call) e later, call.run.run d = .error e later → d.Untouched later) ∧
    (∀ (call : Call) s later, call.run.run d = .ok s later →
      (call.markup? = none → later.tree.size = d.tree.size) ∧
      ((call.markup?.isSome → later.HasRoom) → d.tree.Keeps later.tree call.styled)) ∧
    ∀ question : Question, match question.ask.run d with
      | .ok _ later | .error _ later => d.Untouched later := by
  refine ⟨fun call e later => failed_untouched call d later e, fun call s later ran =>
    ⟨size_call call d later s ran, keeps_call call d later s ran⟩, fun question => ?_⟩
  have ends := (brings_question question).ends d
  cases ran : question.ask.run d <;> rw [ran] at ends <;> exact ends

theorem broken_selector_brings_nothing :
    let element (name : String) : Edit := .create (.element ⟨name, .empty⟩)
    let t := Tree.new.editAll
      [element "ul", element "li", .create (.text "one"), .append ⟨0⟩ ⟨1⟩, .append ⟨1⟩ ⟨2⟩]
    let reader : Markup.Reader :=
      ⟨fun _ => [], fun _ => [.element "html" [] [.element "i" [] [.element "b" [] []]]]⟩
    let d : Document := { id := 0, tree := t, reader, issued := 1 }
    let s : Selection := ⟨0, 0, [⟨2⟩, ⟨3⟩], []⟩
    let broken := Call.selectIn "b:" (.markup "<i><b></b></i>")
    let readable := Call.selectIn "b" (.markup "<i><b></b></i>")
    let styling := Call.setCss s "color" "red"
    (∃ e later, broken.run.run d = .error e later ∧ d.Untouched later) ∧
    (∃ r later, readable.run.run d = .ok r later ∧ r.nodes = [⟨5⟩] ∧
      later.tree.size = 6 ∧ d.tree.Keeps later.tree []) ∧
    ∃ r later, styling.run.run d = .ok r later ∧ later.tree.size = 4 ∧
      later.tree.attr? ⟨2⟩ "style" = some "color: red;" ∧ d.tree.Keeps later.tree [⟨2⟩, ⟨3⟩] := by
  intro element t reader d s broken readable styling
  obtain ⟨failed, done, _⟩ := calls_change_only_their_own d
  have four : d.tree.size = 4 := by decide +kernel
  have refused : (broken.run.yields d).isNone := by decide +kernel
  let start : Session := ⟨d, []⟩
  have brought : (start.step readable).made.map (·.nodes) = [[⟨5⟩]] ∧
      (start.step readable).document.tree.size = 6 ∧ (start.step readable).document.HasRoom := by
    decide +kernel
  have set : (start.step styling).made.length = 1 ∧
      (start.step styling).document.tree.attr? ⟨2⟩ "style" = some "color: red;" := by
    decide +kernel
  refine ⟨?_, ?_, ?_⟩
  · rw [DocumentM.yields] at refused
    cases ran : broken.run.run d with
    | ok r later => simp [ran] at refused
    | error e later => exact ⟨e, later, rfl, failed broken e later ran⟩
  · rw [Session.step] at brought
    cases ran : readable.run.run d with
    | error e later => simp [start, ran] at brought
    | ok r later =>
        simp only [start, ran, List.map_cons, List.map_nil, List.cons.injEq, and_true] at brought
        obtain ⟨nodes, size, room⟩ := brought
        exact ⟨r, later, rfl, nodes, size, (done readable r later ran).2 fun _ => room⟩
  · rw [Session.step] at set
    cases ran : styling.run.run d with
    | error e later => simp [start, ran] at set
    | ok r later =>
        simp only [start, ran] at set
        obtain ⟨size, kept⟩ := done styling r later ran
        have plain : styling.markup? = none := rfl
        exact ⟨r, later, rfl, (size plain).trans four, set.2, kept (by simp [plain])⟩

end DomQuery
