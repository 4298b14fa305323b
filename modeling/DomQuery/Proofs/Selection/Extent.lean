import DomQuery.Proofs.Selection.Outcome
import DomQuery.Proofs.Selector.Chain
import Mathlib.Data.List.Find
import Mathlib.Data.List.TakeWhile

set_option autoImplicit false

namespace DomQuery

open Selector (SelectorList)

inductive Way where
  | forth | back | up

namespace Way

def step : Way → Tree → NodeId → Option NodeId
  | forth => Tree.nextSibling
  | back => Tree.prevSibling
  | up => Tree.parent

def route : Way → Tree → NodeId → List NodeId
  | forth => Tree.followingSiblings
  | back => Tree.precedingSiblings
  | up => Tree.ancestors

-- Ancestors are looked for from the last node on.
def order : Way → List NodeId → List NodeId
  | forth, ns => ns
  | back, ns => ns
  | up, ns => ns.reverse

def whole : Way → Selection → Option String → DocumentM Selection
  | forth => Selection.nextAll
  | back => Selection.prevAll
  | up => Selection.parents

def upTo : Way → Selection → Extent → Option String → DocumentM Selection
  | forth => Selection.nextUntil
  | back => Selection.prevUntil
  | up => Selection.parentsUntil

def elements (way : Way) (t : Tree) (n : NodeId) : List NodeId :=
  (way.route t n).filter t.isElement

def nearer (way : Way) (t : Tree) (ends : NodeId → Bool) (n : NodeId) : List NodeId :=
  ((way.route t n).takeWhile (!ends ·)).filter t.isElement

theorem order_single (way : Way) (n : NodeId) : way.order [n] = [n] := by
  cases way <;> rfl

theorem not_end_of_nearer (way : Way) (t : Tree) (ends : NodeId → Bool) (n m : NodeId)
    (found : m ∈ way.nearer t ends n) : ¬ends m := by
  have passed := List.mem_takeWhile_imp (List.mem_filter.mp found).1
  simpa using passed

theorem nearer_uncut (way : Way) (t : Tree) (ends : NodeId → Bool) (n : NodeId)
    (free : ∀ m ∈ way.route t n, ¬ends m) : way.nearer t ends n = way.elements t n := by
  have whole : (way.route t n).takeWhile (!ends ·) = way.route t n := by
    apply List.takeWhile_eq_self_iff.mpr
    intro m member
    simpa using free m member
  rw [nearer, whole, elements]

theorem nearer_cut (way : Way) (t : Tree) (ends : NodeId → Bool) (n h : NodeId)
    (front rest : List NodeId) (split : way.route t n = front ++ h :: rest)
    (free : ∀ m ∈ front, ¬ends m) (ended : ends h) :
    way.nearer t ends n = front.filter t.isElement := by
  have ahead : (way.route t n).takeWhile (!ends ·) = front := by
    have passed : ∀ m ∈ front, (!ends m) = true := by
      intro m member
      simpa using free m member
    rw [split, List.takeWhile_append_of_pos passed]
    simp [ended]
  rw [nearer, ahead]

section Routes

variable {t : Tree} (formed : t.WellFormed) (way : Way)

include formed

theorem visits_route (n : NodeId) : Visits (way.step t) (way.step t n) (way.route t n) := by
  cases way with
  | forth => exact formed.visits_following n
  | back => exact formed.visits_preceding n
  | up => exact formed.visits_ancestors n

theorem route_nodup (n : NodeId) : (way.route t n).Nodup :=
  visits_nodup _ _ _ (way.visits_route formed n)

-- From a node on the way the rest of the way is the same.
theorem route_behind (n h : NodeId) (front rest : List NodeId)
    (split : way.route t n = front ++ h :: rest) : way.route t h = rest := by
  have walk := way.visits_route formed n
  rw [split] at walk
  exact visits_unique _ _ _ rest (way.visits_route formed h) (visits_behind _ _ front rest h walk)

theorem elements_cut (n h : NodeId) (front rest : List NodeId)
    (split : way.route t n = front ++ h :: rest) :
    way.elements t n = front.filter t.isElement ++
      (if t.isElement h then h :: way.elements t h else way.elements t h) := by
  rw [elements, elements, way.route_behind formed n h front rest split, split, List.filter_append,
    List.filter_cons]

end Routes

end Way

namespace Extent

def Usable (d : Document) : Extent → Prop
  | unbounded => True
  | selector text => ∃ list, SelectorList.parse text = .ok list
  | node n => d.tree.has n
  | selection s => s.document = d.id

-- No walk to the extent goes on to `m`.
def Names (d : Document) (m : NodeId) : Extent → Prop
  | unbounded => False
  | selector text => ∃ list, SelectorList.parse text = .ok list ∧ list.holds d.tree m
  | node n => m = n
  | selection s => m ∈ s.nodes

theorem ending_of_usable (d : Document) (extent : Extent) (usable : extent.Usable d) :
    ∃ ends, d.ending extent = .ok ends ∧ ∀ m, ends m ↔ extent.Names d m := by
  cases extent with
  | unbounded => exact ⟨fun _ => false, rfl, fun m => by simp [Names]⟩
  | selector text =>
      obtain ⟨list, read⟩ := usable
      refine ⟨list.holds d.tree, ?_, fun m => ?_⟩
      · rw [Document.ending, Lookup.selector, read]
        rfl
      · simp [Names, read]
  | node n =>
      have known := d.known_of_has [n] (by simpa using (show d.tree.has n from usable))
      refine ⟨[n].contains, ?_, fun m => by simp [Names]⟩
      rw [Document.ending, known]
      rfl
  | selection s =>
      have own : d.own s = .ok s.nodes := if_pos usable
      refine ⟨s.nodes.contains, ?_, fun m => by simp [Names]⟩
      rw [Document.ending, own]
      rfl

theorem ending_of_unusable (d : Document) (extent : Extent) (broken : ¬extent.Usable d) :
    ∃ e, d.ending extent = .error e := by
  cases extent with
  | unbounded => exact absurd trivial broken
  | selector text =>
      cases read : SelectorList.parse text with
      | ok list => exact absurd ⟨list, read⟩ broken
      | error e =>
          refine ⟨.selector e, ?_⟩
          rw [Document.ending, Lookup.selector, read]
          rfl
  | node n =>
      have missing : d.tree.has n = false := Bool.eq_false_iff.mpr broken
      have foreign : [n].find? (!d.tree.has ·) = some n := by simp [missing]
      refine ⟨.foreignNode n, ?_⟩
      rw [Document.ending, Document.known, foreign]
      rfl
  | selection s =>
      have foreign : d.own s = .error .foreignSelection := if_neg broken
      refine ⟨.foreignSelection, ?_⟩
      rw [Document.ending, foreign]
      rfl

end Extent

-- Where there is a filter, it reads as a selector, and `keep` is its test.
def Document.Filters (d : Document) (filter : Option String) (keep : NodeId → Bool) : Prop :=
  match filter with
  | none => ∀ n, keep n
  | some text => ∃ list, SelectorList.parse text = .ok list ∧ keep = list.holds d.tree

theorem Document.filters_none (d : Document) : d.Filters none fun _ => true := fun _ => rfl

theorem Document.gather_filtered (d : Document) (inputs : List NodeId) (filter : Option String)
    (keep : NodeId → Bool) (walk : NodeId → List NodeId) (filters : d.Filters filter keep) :
    d.gather inputs filter walk = .ok ((inputs.flatMap walk).eraseDups.filter keep) := by
  cases filter with
  | none =>
      rw [List.filter_eq_self.mpr fun n _ => filters n]
      rfl
  | some text =>
      obtain ⟨list, read, rfl⟩ := filters
      rw [gather, Option.mapM_some, Lookup.selector, read]
      rfl

namespace Selection

variable (s : Selection) (d : Document) (inputs : List NodeId)

theorem yields_walk_filtered (filter : Option String) (keep : NodeId → Bool)
    (step : Tree → NodeId → List NodeId) (filters : d.Filters filter keep) :
    (s.walk inputs filter step).yields d =
      some ((inputs.flatMap (step d.tree)).eraseDups.filter keep) :=
  s.yields_looked _ d _ (d.gather_filtered inputs filter keep (step d.tree) filters)

theorem yields_walk_until (extent : Extent) (filter : Option String) (keep : NodeId → Bool)
    (step : Tree → NodeId → List NodeId) (ends : NodeId → Bool)
    (ending : d.ending extent = .ok ends) (filters : d.Filters filter keep) :
    (s.walkUntil inputs extent filter step).yields d =
      some ((inputs.flatMap fun n =>
        ((step d.tree n).takeWhile (!ends ·)).filter d.tree.isElement).eraseDups.filter keep) := by
  apply s.yields_looked
  rw [ending]
  exact d.gather_filtered inputs filter keep _ filters

theorem yields_walk_broken (extent : Extent) (filter : Option String)
    (step : Tree → NodeId → List NodeId) (broken : ¬extent.Usable d) :
    (s.walkUntil inputs extent filter step).yields d = none := by
  obtain ⟨e, failed⟩ := extent.ending_of_unusable d broken
  rw [walkUntil, DocumentM.yields, EStateM.run_bind, DocumentM.run_look, failed]
  rfl

theorem walk_unbounded (filter : Option String) (step : Tree → NodeId → List NodeId) :
    s.walkUntil inputs .unbounded filter step =
      s.walk inputs filter fun t n => (step t n).filter t.isElement := by
  have whole (ns : List NodeId) : ns.takeWhile (fun _ => !false) = ns :=
    List.takeWhile_eq_self_iff.mpr fun _ _ => rfl
  have same (d : Document) :
      (d.ending .unbounded >>= fun ends => d.gather inputs filter fun n =>
        ((step d.tree n).takeWhile (!ends ·)).filter d.tree.isElement) =
      d.gather inputs filter fun n => (step d.tree n).filter d.tree.isElement := by
    change d.gather inputs filter (fun n =>
      ((step d.tree n).takeWhile fun _ => !false).filter d.tree.isElement) = _
    simp only [whole]
  rw [walkUntil, walk, funext same]

end Selection

-- What the whole walk and the walk to the extent find from each node alone.
structure Splits (d : Document) (way : Way) (extent : Extent) (all near : NodeId → List NodeId) :
    Prop where
  alone : ∀ (s : Selection) (n : NodeId), s.nodes = [n] →
    (way.whole s none).yields d = some (all n) ∧
      (way.upTo s extent none).yields d = some (near n)
  outside : ∀ n, ∀ m ∈ near n, ¬extent.Names d m
  uncut : ∀ n, (∀ m ∈ way.route d.tree n, ¬extent.Names d m) → all n = near n
  cut : ∀ n front h rest, way.route d.tree n = front ++ h :: rest →
    (∀ m ∈ front, ¬extent.Names d m) → extent.Names d h →
    all n = near n ++ (if d.tree.isElement h then h :: all h else all h)
  several : ∀ (s : Selection) (filter : Option String) (keep : NodeId → Bool),
    d.Filters filter keep →
    (way.whole s filter).yields d =
        some (((way.order s.nodes).flatMap all).eraseDups.filter keep) ∧
      (way.upTo s extent filter).yields d =
        some (((way.order s.nodes).flatMap near).eraseDups.filter keep)

namespace Way

variable {d : Document} (way : Way)

theorem yields_whole (s : Selection) (filter : Option String) (keep : NodeId → Bool)
    (filters : d.Filters filter keep) :
    (way.whole s filter).yields d =
      some (((way.order s.nodes).flatMap (way.elements d.tree)).eraseDups.filter keep) := by
  have walked := s.yields_walk_filtered d (way.order s.nodes) filter keep way.elements filters
  rw [← walked]
  cases way <;> rfl

theorem yields_up_to (s : Selection) (extent : Extent) (filter : Option String)
    (keep : NodeId → Bool) (ends : NodeId → Bool) (ending : d.ending extent = .ok ends)
    (filters : d.Filters filter keep) :
    (way.upTo s extent filter).yields d =
      some (((way.order s.nodes).flatMap (way.nearer d.tree ends)).eraseDups.filter keep) := by
  have walked := s.yields_walk_until d (way.order s.nodes) extent filter keep way.route ends ending
    filters
  change _ = some (((way.order s.nodes).flatMap (way.nearer d.tree ends)).eraseDups.filter keep)
    at walked
  rw [← walked]
  cases way <;> rfl

theorem up_to_broken (s : Selection) (extent : Extent) (filter : Option String)
    (broken : ¬extent.Usable d) : (way.upTo s extent filter).yields d = none := by
  cases way <;> exact s.yields_walk_broken d _ extent filter _ broken

theorem up_to_unbounded (s : Selection) (filter : Option String) :
    way.upTo s .unbounded filter = way.whole s filter := by
  cases way <;> exact s.walk_unbounded _ filter _

theorem yields_alone (formed : d.tree.WellFormed) (s : Selection) (n : NodeId)
    (only : s.nodes = [n]) : (way.whole s none).yields d = some (way.elements d.tree n) := by
  have once : (way.elements d.tree n).Nodup := (way.route_nodup formed n).filter _
  rw [way.yields_whole s none _ (Document.filters_none d), only, way.order_single,
    List.flatMap_singleton, List.filter_true, Tree.erase_dups_of_nodup _ once]

theorem yields_up_to_alone (formed : d.tree.WellFormed) (s : Selection) (n : NodeId)
    (only : s.nodes = [n]) (extent : Extent) (ends : NodeId → Bool)
    (ending : d.ending extent = .ok ends) :
    (way.upTo s extent none).yields d = some (way.nearer d.tree ends n) := by
  have once : (way.nearer d.tree ends n).Nodup :=
    ((way.route_nodup formed n).sublist (List.takeWhile_sublist _)).filter _
  rw [way.yields_up_to s extent none _ ends ending (Document.filters_none d), only,
    way.order_single, List.flatMap_singleton, List.filter_true, Tree.erase_dups_of_nodup _ once]

theorem splits (formed : d.tree.WellFormed) (extent : Extent) (usable : extent.Usable d) :
    ∃ all near, Splits d way extent all near := by
  obtain ⟨ends, ending, named⟩ := extent.ending_of_usable d usable
  refine ⟨way.elements d.tree, way.nearer d.tree ends, ?_⟩
  constructor
  case alone =>
    intro s n only
    exact ⟨way.yields_alone formed s n only,
      way.yields_up_to_alone formed s n only extent ends ending⟩
  case outside =>
    intro n m found
    rw [← named]
    exact way.not_end_of_nearer d.tree ends n m found
  case uncut =>
    intro n free
    simp only [← named] at free
    exact (way.nearer_uncut d.tree ends n free).symm
  case cut =>
    intro n front h rest split free names
    simp only [← named] at free names
    rw [way.nearer_cut d.tree ends n h front rest split free names]
    exact way.elements_cut formed n h front rest split
  case several =>
    intro s filter keep filters
    exact ⟨way.yields_whole s filter keep filters,
      way.yields_up_to s extent filter keep ends ending filters⟩

end Way

theorem find_element (t : Tree) (list : SelectorList) (ns : List NodeId) :
    (ns.filter t.isElement).find? (list.holds t) = ns.find? (list.holds t) := by
  rw [List.find?_filter]
  apply List.find?_congr
  intro n _
  by_cases holds : list.holds t n
  · obtain ⟨c, _, matched⟩ := (Selector.any_holds_iff t none n list).mp holds
    simp [holds, c.is_element_of_holds t none n matched]
  · simp [holds]

theorem Selection.yields_closest (s : Selection) (d : Document) (n : NodeId) (only : s.nodes = [n])
    (text : String) (list : SelectorList) (read : SelectorList.parse text = .ok list) :
    (s.closest (some text)).yields d = some (if list.holds d.tree n then [n]
      else ((Way.up.elements d.tree n).find? (list.holds d.tree)).toList) := by
  have looked : (DocumentM.look fun _ => Lookup.selector text).run d = .ok list d := by
    rw [DocumentM.run_look, Lookup.selector, read]
    rfl
  have once (found : Option NodeId) : found.toList.eraseDups = found.toList := by
    cases found <;> rfl
  rw [closest, DocumentM.yields_bind _ _ d d list looked,
    s.yields_walk_filtered d s.nodes none _ _ d.filters_none, only, List.flatMap_singleton,
    List.filter_true, once, Way.elements, find_element, List.find?_cons]
  by_cases own : list.holds d.tree n
  · rw [if_pos own, own]
    rfl
  · rw [if_neg own, Bool.eq_false_iff.mpr own]
    rfl

theorem ranges_split (d : Document) (formed : d.tree.WellFormed) :
    (∀ (way : Way) (extent : Extent), extent.Usable d →
      ∃ all near, Splits d way extent all near) ∧
    (∀ (way : Way) (s : Selection) (extent : Extent) (filter : Option String),
      ¬extent.Usable d → (way.upTo s extent filter).yields d = none) ∧
    (∀ (way : Way) (s : Selection) (filter : Option String),
      way.upTo s .unbounded filter = way.whole s filter) ∧
    ∀ (s : Selection) (n : NodeId) (text : String) (list : SelectorList), s.nodes = [n] →
      SelectorList.parse text = .ok list →
      ∃ above, (s.parents none).yields d = some above ∧
        (s.closest (some text)).yields d = some (if list.holds d.tree n then [n]
          else (above.find? (list.holds d.tree)).toList) := by
  refine ⟨fun way extent usable => way.splits formed extent usable,
    fun way s extent filter broken => way.up_to_broken s extent filter broken,
    fun way s filter => way.up_to_unbounded s filter, fun s n text list only read => ?_⟩
  exact ⟨_, Way.up.yields_alone formed s n only, s.yields_closest d n only text list read⟩

theorem range_ends_at_comment :
    let element (name : String) : Edit := .create (.element ⟨name, .empty⟩)
    let t := Tree.new.editAll
      [element "ul", element "li", .create (.text "and"), element "li", .create (.comment "or"),
        element "li", .append ⟨0⟩ ⟨1⟩, .append ⟨1⟩ ⟨2⟩, .append ⟨1⟩ ⟨3⟩, .append ⟨1⟩ ⟨4⟩,
        .append ⟨1⟩ ⟨5⟩, .append ⟨1⟩ ⟨6⟩]
    let d : Document := { id := 0, tree := t, reader := default }
    let s : Selection := ⟨0, 0, [⟨2⟩], []⟩
    let c : Selection := ⟨0, 1, [⟨5⟩], []⟩
    d.tree.WellFormed ∧ (Extent.node ⟨5⟩).Usable d ∧
      (∃ near rest, (s.nextUntil (.node ⟨5⟩) none).yields d = some near ∧
        (c.nextAll none).yields d = some rest ∧ near = [⟨4⟩] ∧
        (s.nextAll none).yields d = some (near ++ rest)) ∧
      (s.nextUntil (.node ⟨7⟩) none).yields d = none ∧
      s.nextUntil .unbounded none = s.nextAll none ∧
      (s.closest (some "ul")).yields d = some [⟨1⟩] := by
  intro element t d s c
  have grown : t.WellFormed := Tree.well_formed_new.well_formed_edit_all _ (by decide +kernel)
  have formed : d.tree.WellFormed := by
    dsimp only [d]
    exact grown
  have usable : (Extent.node ⟨5⟩).Usable d := by
    change d.tree.has ⟨5⟩ = true
    decide +kernel
  have broken : ¬(Extent.node ⟨7⟩).Usable d := by
    change ¬d.tree.has ⟨7⟩ = true
    decide +kernel
  have read : SelectorList.parse "ul" = .ok [.start none [.type "ul"]] := by rfl
  obtain ⟨split, fails, unbounded, closest⟩ := ranges_split d formed
  obtain ⟨all, near, splits⟩ := split .forth (.node ⟨5⟩) usable
  obtain ⟨wholly, partly⟩ := splits.alone s ⟨2⟩ rfl
  obtain ⟨onward, _⟩ := splits.alone c ⟨5⟩ rfl
  have here : near ⟨2⟩ = [⟨4⟩] := Option.some.inj (partly.symm.trans (by decide +kernel))
  have cut := splits.cut ⟨2⟩ [⟨3⟩, ⟨4⟩] ⟨5⟩ [⟨6⟩] (by decide +kernel)
    (fun m member => by simp [Extent.Names] at member ⊢; rcases member with rfl | rfl <;> decide) rfl
  have bare : ¬d.tree.isElement ⟨5⟩ := by decide +kernel
  rw [if_neg bare] at cut
  obtain ⟨above, parents, found⟩ := closest s ⟨2⟩ "ul" _ rfl read
  have list : above = [⟨1⟩] := Option.some.inj (parents.symm.trans (by decide +kernel))
  refine ⟨formed, usable, ⟨near ⟨2⟩, all ⟨5⟩, partly, onward, here, ?_⟩,
    fails .forth s (.node ⟨7⟩) none broken, unbounded .forth s none, ?_⟩
  · rw [← cut]
    exact wholly
  · rw [found, list]
    decide +kernel

end DomQuery
