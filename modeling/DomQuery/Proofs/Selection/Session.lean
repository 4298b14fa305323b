import DomQuery.Proofs.Selection.Derived

set_option autoImplicit false

namespace DomQuery

inductive Call where
  | root
  | empty
  | select (text : String)
  | selectIn (text : String) (operand : Operand)
  | fragment (markup : String)
  | wrap (ns : List NodeId)
  | derive (s : Selection) (derivation : Derivation)
  | previous (s : Selection)
  | setCss (s : Selection) (name value : String)
  | setCssAll (s : Selection) (es : List Field)
  | setCssWith (s : Selection) (name : String) (f : Nat → NodeId → Option String → Option String)

namespace Call

def run : Call → DocumentM Selection
  | root => Document.root
  | empty => Document.empty
  | select text => Document.select text
  | selectIn text operand => Document.selectIn text operand
  | fragment markup => Document.fragment markup
  | wrap ns => Document.wrap ns
  | derive s derivation => derivation.run s
  | previous s => s.previous
  | setCss s name value => s.setCss name value
  | setCssAll s es => s.setCssAll es
  | setCssWith s name f => s.setCssWith name f

def receiver? : Call → Option Selection
  | derive s _ | previous s | setCss s _ _ | setCssAll s _ | setCssWith s _ _ => some s
  | _ => none

def operand? : Call → Option Operand
  | derive _ derivation => derivation.operand?
  | _ => none

end Call

structure Session where
  document : Document
  made : List Selection

namespace Session

def step (x : Session) (call : Call) : Session :=
  match call.run.run x.document with
  | .ok s d => ⟨d, s :: x.made⟩
  | .error _ d => ⟨d, x.made⟩

-- There are no selections of the document but those that calls have made.
structure Allows (x : Session) (call : Call) : Prop where
  receiver : ∀ s, call.receiver? = some s → s ∈ x.made
  operand : ∀ s, call.operand? = some (.selection s) → s.document = x.document.id → s ∈ x.made

def Steps (x y : Session) : Prop := ∃ call, x.Allows call ∧ y = x.step call ∧ y.document.HasRoom

structure Sound (x : Session) : Prop where
  formed : x.document.tree.WellFormed
  rooted : x.document.tree.has .document
  own : ∀ s ∈ x.made, s.BelongsTo x.document
  distinct : ∀ s ∈ x.made, s.nodes.Nodup
  issued : ∀ s ∈ x.made, s.serial < x.document.issued
  closed : ∀ s ∈ x.made, ∀ p, s.origin? = some p → p ∈ x.made
  single : ∀ a ∈ x.made, ∀ b ∈ x.made, a.serial = b.serial → a = b

end Session

theorem Document.Grows.restyle (d : Document)
    (f : Nat → NodeId → Style.Declarations → Id Style.Declarations) (ns : List (NodeId × Nat)) :
    d.Grows { d with tree := Id.run (d.tree.restyle f ns) } := by
  obtain ⟨size, links⟩ := d.tree.links_restyle f ns
  have kept : d.tree.size ≤ (Id.run (d.tree.restyle f ns)).size := Nat.le_of_eq size.symm
  exact ⟨rfl, Nat.le_refl _, kept, fun formed room => formed.well_formed_of_links _ kept room links⟩

namespace Session

def Made (x : Session) (r : Selection) (later : Document) : Prop :=
  r ∈ x.made ∨
    ∃ origin, (∀ s, origin = some s → s ∈ x.made) ∧ Selection.Fresh x.document origin r later

variable {x : Session} (sound : x.Sound)

include sound

omit sound in
theorem made_anew (r : Selection) (later : Document)
    (fresh : Selection.Fresh x.document none r later) : x.Made r later :=
  Or.inr ⟨none, nofun, fresh⟩

theorem gives_previous (s : Selection) (member : s ∈ x.made) :
    s.previous.Gives x.document x.Made := by
  cases origin : s.origin? with
  | some p =>
      have ran := s.run_previous_origin p x.document origin
      exact .ok p x.document ran (.same _) (Or.inl (sound.closed s member p origin))
  | none =>
      have start : s.history = [] := by
        cases history : s.history with
        | nil => rfl
        | cons stage stages => simp [Selection.origin?, history] at origin
      rw [Selection.previous, start]
      exact (Selection.gives_issue _ _ [] (.same _) fun _ => Tree.lists_nil _).imp made_anew

theorem gives_derived (s : Selection) (derivation : Derivation)
    (allowed : x.Allows (.derive s derivation)) :
    (derivation.run s).Gives x.document (Selection.Fresh x.document (some s)) := by
  have member := allowed.receiver s rfl
  apply gives_derivation s _ (sound.own s member) (sound.distinct s member) sound.formed derivation
  rintro operand takes other rfl home
  exact (sound.own other (allowed.operand other takes home)).known

theorem gives_call (call : Call) (allowed : x.Allows call) :
    call.run.Gives x.document x.Made := by
  have restyled (s : Selection) (member : s ∈ x.made) (f) (ns) :
      (modify (fun d => { d with tree := Id.run (d.tree.restyle f ns) }) >>= fun _ =>
        pure s : DocumentM Selection).Gives x.document x.Made :=
    .ok s _ rfl (.restyle x.document f ns) (Or.inl member)
  cases call with
  | root =>
      refine (Selection.gives_issue _ _ [.document] (.same _) fun _ => ?_).imp made_anew
      exact ⟨List.nodup_singleton _, by simpa using sound.rooted⟩
  | empty => exact (Selection.gives_issue _ _ [] (.same _) fun _ => Tree.lists_nil _).imp made_anew
  | select text =>
      apply DocumentM.gives_look_bind
      intro ns found
      obtain ⟨list, _, made⟩ := Selector.ok_of_bind found
      refine (Selection.gives_issue _ _ ns (.same _) fun _ => ?_).imp made_anew
      rw [← Except.ok.inj made]
      exact sound.formed.lists_query list .document
  | selectIn text operand =>
      apply DocumentM.gives_bind _ _ _ _ _
        (DocumentM.gives_select_in_nodes text operand _ sound.formed)
      intro ns later grown lists
      exact (Selection.gives_issue _ later ns grown lists).imp made_anew
  | fragment markup =>
      apply DocumentM.gives_bind _ _ _ _ _ (DocumentM.gives_grow markup _)
      intro roots later grown lists
      exact (Selection.gives_issue _ later roots grown lists).imp made_anew
  | wrap ns =>
      apply DocumentM.gives_look_bind
      intro ms answer
      obtain ⟨rfl, known⟩ := Document.known_ok ns ms answer
      exact (Selection.gives_issue _ _ _ (.same _) fun _ =>
        Tree.lists_erase_dups _ _ known).imp made_anew
  | derive s derivation =>
      have member := allowed.receiver s rfl
      exact (gives_derived sound s derivation allowed).imp fun r later fresh =>
        Or.inr ⟨some s, fun _ same => Option.some.inj same ▸ member, fresh⟩
  | previous s => exact gives_previous sound s (allowed.receiver s rfl)
  | setCss s name value => exact restyled s (allowed.receiver s rfl) _ _
  | setCssAll s es => exact restyled s (allowed.receiver s rfl) _ _
  | setCssWith s name f => exact restyled s (allowed.receiver s rfl) _ _

theorem sound_grown (later : Document) (grown : x.document.Grows later) (room : later.HasRoom) :
    Sound ⟨later, x.made⟩ where
  formed := grown.formed sound.formed room
  rooted := grown.has _ sound.rooted
  own s member := grown.belongs s (sound.own s member)
  distinct := sound.distinct
  issued s member := Nat.lt_of_lt_of_le (sound.issued s member) grown.issued
  closed := sound.closed
  single := sound.single

theorem sound_again (r : Selection) (later : Document) (grown : x.document.Grows later)
    (room : later.HasRoom) (member : r ∈ x.made) : Sound ⟨later, r :: x.made⟩ := by
  have others := sound_grown sound later grown room
  have old : ∀ s ∈ r :: x.made, s ∈ x.made := List.forall_mem_cons.mpr ⟨member, fun _ => id⟩
  exact {
    formed := others.formed
    rooted := others.rooted
    own := fun s inside => others.own s (old s inside)
    distinct := fun s inside => others.distinct s (old s inside)
    issued := fun s inside => others.issued s (old s inside)
    closed := fun s inside p origin =>
      List.mem_cons_of_mem r (others.closed s (old s inside) p origin)
    single := fun a inA b inB => others.single a (old a inA) b (old b inB) }

theorem sound_fresh (r : Selection) (later : Document) (from? : Option Selection)
    (grown : x.document.Grows later) (room : later.HasRoom)
    (known : ∀ s, from? = some s → s ∈ x.made)
    (fresh : Selection.Fresh x.document from? r later) : Sound ⟨later, r :: x.made⟩ := by
  have others := sound_grown sound later grown room
  have apart : ∀ s ∈ x.made, r.serial ≠ s.serial := fun s member same =>
    Nat.not_lt_of_le fresh.lower (same ▸ sound.issued s member)
  exact {
    formed := others.formed
    rooted := others.rooted
    own := List.forall_mem_cons.mpr ⟨fresh.own room, others.own⟩
    distinct := List.forall_mem_cons.mpr ⟨fresh.distinct room, others.distinct⟩
    issued := List.forall_mem_cons.mpr ⟨fresh.upper, others.issued⟩
    closed := by
      intro s member p origin
      apply List.mem_cons_of_mem
      rcases List.mem_cons.mp member with rfl | old
      · exact known p (fresh.origin.symm.trans origin)
      · exact others.closed s old p origin
    single := by
      intro a inA b inB same
      rcases List.mem_cons.mp inA with rfl | oldA
      · rcases List.mem_cons.mp inB with rfl | oldB
        · rfl
        · exact absurd same (apart b oldB)
      · rcases List.mem_cons.mp inB with rfl | oldB
        · exact absurd same.symm (apart a oldA)
        · exact others.single a oldA b oldB same }

theorem sound_step (call : Call) (allowed : x.Allows call)
    (room : (x.step call).document.HasRoom) : (x.step call).Sound := by
  cases gives_call sound call allowed with
  | error e later ran grown =>
      rw [step, ran] at room ⊢
      exact sound_grown sound later grown room
  | ok r later ran grown made =>
      rw [step, ran] at room ⊢
      rcases made with again | ⟨origin, known, fresh⟩
      · exact sound_again sound r later grown room again
      · exact sound_fresh sound r later origin grown room known fresh

omit sound in
theorem sound_start (d : Document) (formed : d.tree.WellFormed) (rooted : d.tree.has .document) :
    Sound ⟨d, []⟩ :=
  ⟨formed, rooted, nofun, nofun, nofun, nofun, nofun⟩

omit sound in
theorem sound_run (d : Document) (formed : d.tree.WellFormed) (rooted : d.tree.has .document)
    (run : Relation.ReflTransGen Steps ⟨d, []⟩ x) : x.Sound := by
  induction run with
  | refl => exact sound_start d formed rooted
  | tail _ last before =>
      obtain ⟨call, allowed, rfl, room⟩ := last
      exact sound_step before call allowed room

end Session

namespace Selection

def back : Nat → Selection → DocumentM Selection
  | 0, s => pure s
  | steps + 1, s => s.previous >>= back steps

theorem back_from_start (steps : Nat) (s : Selection) (d : Document) (start : s.history = [])
    (empty : s.nodes = []) : (s.back steps).yields d = some [] := by
  induction steps generalizing s d with
  | zero => exact congrArg some empty
  | succ steps ih =>
      have ran : s.previous.run d = .ok ⟨d.id, d.issued, [], []⟩ d.next := by
        rw [previous, start]
        rfl
      rw [back, DocumentM.yields_bind _ _ d _ _ ran]
      exact ih _ _ rfl rfl

-- Every chain is as long as its history, and then come empty selections only.
theorem back_past_history (steps : Nat) (s : Selection) (d : Document)
    (more : s.history.length < steps) : (s.back steps).yields d = some [] := by
  induction steps generalizing s d with
  | zero => cases more
  | succ steps ih =>
      cases history : s.history with
      | nil =>
          have ran : s.previous.run d = .ok ⟨d.id, d.issued, [], []⟩ d.next := by
            rw [previous, history]
            rfl
          rw [back, DocumentM.yields_bind _ _ d _ _ ran]
          exact back_from_start steps _ _ rfl rfl
      | cons stage stages =>
          have origin : s.origin? = some ⟨s.document, stage.serial, stage.nodes, stages⟩ := by
            rw [origin?, history]
          rw [back, DocumentM.yields_bind _ _ d _ _ (run_previous_origin s _ d origin)]
          apply ih
          rw [history] at more
          exact Nat.lt_of_succ_lt_succ more

end Selection

theorem selections_stay_valid (d : Document) (formed : d.tree.WellFormed)
    (rooted : d.tree.has .document) (x : Session)
    (run : Relation.ReflTransGen Session.Steps ⟨d, []⟩ x) :
    (∀ s ∈ x.made, s.nodes.Nodup ∧ ∀ n ∈ s.nodes, x.document.tree.has n) ∧
    -- What is derived leads back to the very selection that it was derived from.
    (∀ s derivation r later, x.Allows (.derive s derivation) →
      (derivation.run s).run x.document = .ok r later →
      ∀ last, r.previous.run last = .ok s last) ∧
    (∀ a ∈ x.made, ∀ b ∈ x.made, a.isSame b → a = b) ∧
    ∀ s ∈ x.made, ∀ last, ∃ steps, ∀ more, steps ≤ more → (s.back more).yields last = some [] := by
  have sound := Session.sound_run d formed rooted run
  refine ⟨fun s member => ⟨sound.distinct s member, (sound.own s member).known⟩, ?_, ?_, ?_⟩
  · intro s derivation r later allowed ran last
    cases Session.gives_derived sound s derivation allowed with
    | error e later' failed _ => cases ran.symm.trans failed
    | ok r' later' again _ fresh =>
        cases ran.symm.trans again
        exact r.run_previous_origin s last fresh.origin
  · intro a inA b inB same
    rw [Selection.isSame, Bool.and_eq_true, decide_eq_true_eq, decide_eq_true_eq] at same
    exact sound.single a inA b inB same.2
  · intro s _ last
    exact ⟨s.history.length + 1, fun more enough => s.back_past_history more last enough⟩

theorem list_of_items_with_fragment :
    let element (name : String) : Edit := .create (.element ⟨name, .empty⟩)
    let t := Tree.new.editAll
      [element "ul", element "li", element "li", .append ⟨0⟩ ⟨1⟩, .append ⟨1⟩ ⟨2⟩, .append ⟨1⟩ ⟨3⟩]
    let reader : Markup.Reader := ⟨fun _ => [], fun _ => [.element "html" [] [.element "b" [] []]]⟩
    let d : Document := { id := 0, tree := t, reader }
    let start : Session := ⟨d, []⟩
    let items : Selection := ⟨0, 0, [⟨2⟩, ⟨3⟩], []⟩
    let parents : Selection := ⟨0, 1, [⟨1⟩], [items.stage]⟩
    let x := ((start.step (.select "li")).step (.derive items (.parent none))).step (.fragment "<b>")
    d.tree.WellFormed ∧ d.tree.has .document ∧ Relation.ReflTransGen Session.Steps start x ∧
      x.made = [⟨0, 2, [⟨4⟩], []⟩, parents, items] ∧
      (∀ s ∈ x.made, s.nodes.Nodup ∧ ∀ n ∈ s.nodes, x.document.tree.has n) ∧
      ∃ r later, (parents.addBack (some "li")).run x.document = .ok r later ∧
        ∀ last, r.previous.run last = .ok parents last := by
  intro element t reader d start items parents x
  have grown : t.WellFormed := Tree.well_formed_new.well_formed_edit_all _ (by decide +kernel)
  have formed : d.tree.WellFormed := by
    dsimp only [d]
    exact grown
  have rooted : d.tree.has .document := by decide +kernel
  have selected : (start.step (.select "li")).made = [items] := by decide +kernel
  have made : x.made = [⟨0, 2, [⟨4⟩], []⟩, parents, items] := by
    decide +kernel
  have first : start.Steps (start.step (.select "li")) :=
    ⟨.select "li", ⟨nofun, nofun⟩, rfl, by decide +kernel⟩
  have second : (start.step (.select "li")).Steps
      ((start.step (.select "li")).step (.derive items (.parent none))) := by
    refine ⟨.derive items (.parent none), ⟨fun s receiver => ?_, nofun⟩, rfl, by decide +kernel⟩
    rw [← Option.some.inj receiver, selected]
    exact List.mem_singleton_self items
  have third : Session.Steps _ x := ⟨.fragment "<b>", ⟨nofun, nofun⟩, rfl, by decide +kernel⟩
  have run : Relation.ReflTransGen Session.Steps start x :=
    ((Relation.ReflTransGen.single first).tail second).tail third
  obtain ⟨valid, leadsBack, _⟩ := selections_stay_valid d formed rooted x run
  have allowed : x.Allows (.derive parents (.addBack (some "li"))) := by
    refine ⟨fun s receiver => ?_, nofun⟩
    rw [← Option.some.inj receiver, made]
    simp
  have added : ((parents.addBack (some "li")).yields x.document).isSome := by decide +kernel
  rw [DocumentM.yields] at added
  cases ran : (parents.addBack (some "li")).run x.document with
  | error e later =>
      rw [ran] at added
      cases added
  | ok r later =>
      exact ⟨formed, rooted, run, made, valid, r, later, rfl, leadsBack parents _ r later allowed ran⟩

end DomQuery
