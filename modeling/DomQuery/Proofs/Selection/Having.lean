import DomQuery.Proofs.Selection.Scoped
import DomQuery.Proofs.Selector.Candidates
import DomQuery.Proofs.Selector.Composed

set_option autoImplicit false

namespace DomQuery

open Selector (SelectorList)

def DocumentM.failure (operation : DocumentM Selection) (d : Document) : Option LookupError :=
  match operation.run d with
  | .ok _ _ => none
  | .error e _ => some e

-- The same cause, told by another operation.
def LookupError.toldBy (operation : String) : LookupError → LookupError
  | .markupNotAccepted _ => .markupNotAccepted operation
  | e => e

namespace Selection

theorem failure_looked (s : Selection) (f : Document → Lookup (List NodeId)) (d : Document) :
    (DocumentM.look f >>= s.chain).failure d =
      match f d with
      | .ok _ => none
      | .error e => some e := by
  rw [DocumentM.failure, EStateM.run_bind, DocumentM.run_look]
  cases f d <;> rfl

theorem find_fails_as_has (s u : Selection) (operand : Operand) (d : Document) :
    (u.find operand).failure d = ((s.has operand).failure d).map (·.toldBy "find") := by
  rw [has, find, failure_looked, failure_looked]
  cases operand with
  | selector text =>
      simp only [hasNodes, findNodes, Lookup.relativeSelector]
      cases SelectorList.parseRelative text <;> rfl
  | markup text => rfl
  | node n =>
      simp only [hasNodes, findNodes, Document.nodesOf, Document.known]
      cases [n].find? (!d.tree.has ·) <;> rfl
  | nodes ns =>
      simp only [hasNodes, findNodes, Document.nodesOf, Document.known]
      cases ns.find? (!d.tree.has ·) <;> rfl
  | selection other =>
      simp only [hasNodes, findNodes, Document.nodesOf, Document.own]
      by_cases home : other.document = d.id
      · simp only [if_pos home]
        rfl
      · simp only [if_neg home]
        rfl

end Selection

section Below

variable (t : Tree) (n : NodeId) (list : SelectorList)

theorem found_iff_any :
    (list.queryAll t n).eraseDups ≠ [] ↔ (t.descendants n).any (list.holdsIn t n) := by
  rw [ne_eq, List.eq_nil_iff_forall_not_mem, List.any_eq_true]
  simp only [List.mem_eraseDups, SelectorList.queryAll, List.mem_filter, not_forall, not_not]

-- Entry after entry in the pseudo-class, node after node elsewhere.
theorem any_reached_below (below : ∀ c ∈ list, ¬c.isBeside) :
    Selector.anyReached t n list ↔ (t.descendants n).any (list.holdsIn t n) := by
  rw [Selector.any_reached_iff, List.any_eq_true]
  constructor
  · rintro ⟨c, member, m, reached, holds⟩
    rw [Selector.reach_of_is_beside, if_neg (below c member)] at reached
    exact ⟨m, reached, (Selector.any_holds_iff t _ m list).mpr ⟨c, member, holds⟩⟩
  · rintro ⟨m, under, matched⟩
    obtain ⟨c, member, holds⟩ := (Selector.any_holds_iff t _ m list).mp matched
    refine ⟨c, member, m, ?_, holds⟩
    rwa [Selector.reach_of_is_beside, if_neg (below c member)]

theorem holds_has :
    SelectorList.holds [.start none [.pseudo (.has list)]] t n ↔
      t.isElement n ∧ Selector.anyReached t n list := by
  rw [SelectorList.holds, Selector.anyHolds, Selector.anyHolds, Selector.Complex.holds,
    Tree.isElement]
  cases t.element? n with
  | none => simp
  | some e =>
      simp [Selector.allHold, Selector.Simple.holds, Selector.PseudoClass.holds, Selector.anchored]

end Below

namespace Selection

-- The node is kept for having it exactly if it is found below that node alone.
def HasAsFinds (s : Selection) (d : Document) (n : NodeId) (operand : Operand) : Prop :=
  ∃ kept found, (s.has operand).yields d = some kept ∧
    (Document.wrap [n] >>= fun w => w.find operand).yields d = some found ∧
    (n ∈ kept ↔ found ≠ [])

theorem run_wrap (d : Document) (n : NodeId) (known : d.tree.has n) :
    (Document.wrap [n]).run d = .ok ⟨d.id, d.issued, [n], []⟩ d.next := by
  have own := d.known_of_has [n] (by simpa using known)
  rw [Document.wrap, EStateM.run_bind, DocumentM.run_look, own]
  rfl

section Given

-- Nodes that are given as such and not by a selector.
variable (operand : Operand) (ms : List NodeId) (plain : ∀ text, operand ≠ .selector text)

include plain

theorem has_nodes_given (s : Selection) (d : Document) (given : d.nodesOf "has" operand = .ok ms) :
    s.hasNodes operand d = .ok (s.nodes.filter fun n => ms.any (d.tree.contains n)) := by
  rw [hasNodes, given]
  · rfl
  · exact plain

theorem find_nodes_given (s : Selection) (d : Document) (given : d.nodesOf "find" operand = .ok ms) :
    s.findNodes operand d =
      .ok (ms.filter fun m => s.nodes.any (d.tree.contains · m)).eraseDups := by
  rw [findNodes, given]
  · rfl
  · exact plain

theorem has_as_finds_given (s : Selection) (d : Document) (n : NodeId) (member : n ∈ s.nodes)
    (known : d.tree.has n) (given : d.nodesOf "has" operand = .ok ms)
    (again : d.next.nodesOf "find" operand = .ok ms) : s.HasAsFinds d n operand := by
  have kept := s.yields_looked _ d _ (has_nodes_given operand ms plain s d given)
  have found : (Document.wrap [n] >>= fun w => w.find operand).yields d =
      some (ms.filter fun m => [n].any (d.tree.contains · m)).eraseDups := by
    rw [DocumentM.yields_bind _ _ d _ _ (run_wrap d n known)]
    exact yields_looked _ _ _ _ (find_nodes_given operand ms plain _ d.next again)
  refine ⟨_, _, kept, found, ?_⟩
  rw [List.mem_filter, and_iff_right member, List.any_eq_true, ne_eq,
    List.eq_nil_iff_forall_not_mem]
  simp only [List.mem_eraseDups, List.mem_filter, List.any_cons, List.any_nil, Bool.or_false,
    not_forall, not_not]

end Given

section Text

variable (d : Document) (text : String) (list : SelectorList)
  (read : SelectorList.parseRelative text = .ok list)

include read

theorem yields_has_text (s : Selection) :
    (s.has (.selector text)).yields d =
      some (s.nodes.filter fun n => (d.tree.descendants n).any (list.holdsIn d.tree n)) := by
  apply yields_looked
  rw [hasNodes, Lookup.relativeSelector, read]
  rfl

theorem yields_find_text (n : NodeId) (known : d.tree.has n) :
    (Document.wrap [n] >>= fun w => w.find (.selector text)).yields d =
      some (list.queryAll d.tree n).eraseDups := by
  rw [DocumentM.yields_bind _ _ d _ _ (run_wrap d n known),
    DocumentM.yields_of_run _ _ _ _ (run_find _ text list d.next read), derived,
    List.flatMap_singleton]
  rfl

theorem yields_filter_has (s : Selection) :
    (s.filter (.operand (.selector (":has(" ++ text ++ ")")))).yields d =
      some (s.nodes.filter
        (SelectorList.holds [.start none [.pseudo (.has list)]] d.tree)) := by
  have enclosed : SelectorList.parse (":has(" ++ text ++ ")") =
      .ok [.start none [.pseudo (.has list)]] :=
    Selector.parse_enclosed true .has text list rfl rfl read
  apply DocumentM.yields_of_run _ d d.next (s.derived d _)
  rw [run_filter, tests, Lookup.selector, enclosed, ← keep_map]
  rfl

end Text

end Selection

-- All three walk through what is below the node, so nothing is asked of the links of the tree.
theorem ways_of_asking_agree (d : Document) (s : Selection) (n : NodeId) (member : n ∈ s.nodes)
    (known : d.tree.has n) :
    (∀ text list, SelectorList.parseRelative text = .ok list → (∀ c ∈ list, ¬c.isBeside) →
      d.tree.isElement n →
      ∃ kept found matching, (s.has (.selector text)).yields d = some kept ∧
        (Document.wrap [n] >>= fun w => w.find (.selector text)).yields d = some found ∧
        (s.filter (.operand (.selector (":has(" ++ text ++ ")")))).yields d = some matching ∧
        (n ∈ kept ↔ found ≠ []) ∧ (found ≠ [] ↔ n ∈ matching)) ∧
    (∀ m, d.tree.has m → s.HasAsFinds d n (.node m)) ∧
    (∀ ms, (∀ m ∈ ms, d.tree.has m) → s.HasAsFinds d n (.nodes ms)) ∧
    (∀ u : Selection, u.document = d.id → s.HasAsFinds d n (.selection u)) ∧
    ∀ (u : Selection) (operand : Operand),
      (u.find operand).failure d = ((s.has operand).failure d).map (·.toldBy "find") := by
  refine ⟨fun text list read below element => ?_, fun m inside => ?_, fun ms inside => ?_,
    fun u home => ?_, fun u operand => s.find_fails_as_has u operand d⟩
  · refine ⟨_, _, _, Selection.yields_has_text d text list read s,
      Selection.yields_find_text d text list read n known,
      Selection.yields_filter_has d text list read s, ?_, ?_⟩
    · rw [List.mem_filter, and_iff_right member, found_iff_any]
    · rw [List.mem_filter, and_iff_right member, found_iff_any, holds_has, and_iff_right element,
        any_reached_below d.tree n list below]
  · have own := d.known_of_has [m] (by simpa using inside)
    exact Selection.has_as_finds_given (.node m) [m] nofun s d n member known own own
  · have own := d.known_of_has ms inside
    exact Selection.has_as_finds_given (.nodes ms) ms nofun s d n member known own own
  · have own : d.own u = .ok u.nodes := if_pos home
    exact Selection.has_as_finds_given (.selection u) u.nodes nofun s d n member known own own

theorem emphasis_asked_for :
    let element (name : String) : Edit := .create (.element ⟨name, .empty⟩)
    let t := Tree.new.editAll
      [element "div", element "div", element "p", element "em", element "em", .append ⟨0⟩ ⟨1⟩,
        .append ⟨0⟩ ⟨2⟩, .append ⟨2⟩ ⟨3⟩, .append ⟨3⟩ ⟨4⟩, .append ⟨3⟩ ⟨5⟩]
    let d : Document := { id := 0, tree := t, reader := default }
    let s : Selection := ⟨0, 0, [⟨1⟩, ⟨2⟩], []⟩
    let text := "> b, p:not(:empty) > em"
    let list : SelectorList := [.start (some .child) [.type "b"],
      .link (.start none [.type "p", .pseudo (.not [.start none [.pseudo .empty]])]) .child
        [.type "em"]]
    SelectorList.parseRelative text = .ok list ∧ (∀ c ∈ list, ¬c.isBeside) ∧
      d.tree.has ⟨2⟩ ∧ d.tree.isElement ⟨2⟩ ∧
      (s.has (.selector text)).yields d = some [⟨2⟩] ∧
      (∃ found, (Document.wrap [⟨2⟩] >>= fun w => w.find (.selector text)).yields d = some found ∧
        found ≠ []) ∧
      (∃ matching, (s.filter (.operand (.selector (":has(" ++ text ++ ")")))).yields d =
        some matching ∧ ⟨2⟩ ∈ matching) ∧
      s.HasAsFinds d ⟨2⟩ (.node ⟨5⟩) ∧
      (s.has (.markup "<b>")).failure d = some (.markupNotAccepted "has") ∧
      (s.find (.markup "<b>")).failure d = some (.markupNotAccepted "find") := by
  intro element t d s text list
  have read : SelectorList.parseRelative text = .ok list := by
    dsimp only [text]
    rfl
  have below : ∀ c ∈ list, ¬c.isBeside := by decide
  obtain ⟨known, isElement, inner⟩ :
      d.tree.has ⟨2⟩ ∧ d.tree.isElement ⟨2⟩ ∧ d.tree.has ⟨5⟩ := by decide +kernel
  have having : (s.has (.selector text)).yields d = some [⟨2⟩] := by decide +kernel
  obtain ⟨asked, node, _, _, failing⟩ :=
    ways_of_asking_agree d s ⟨2⟩ (by simp [s]) known
  obtain ⟨kept, found, matching, first, second, third, agree, again⟩ :=
    asked text list read below isElement
  have here : ⟨2⟩ ∈ kept := by
    rw [Option.some.inj (first.symm.trans having)]
    simp
  have some := agree.mp here
  exact ⟨read, below, known, isElement, having, ⟨found, second, some⟩,
    ⟨matching, third, again.mp some⟩, node ⟨5⟩ inner, rfl, failing s _⟩

end DomQuery
