import DomQuery.Proofs.Fields
import DomQuery.Tree.Node

set_option autoImplicit false

namespace DomQuery

inductive AttrChange where
  | set (name value : String)
  | remove (name : String)

namespace AttrChange

def name : AttrChange → String
  | set name _ => name
  | remove name => name

-- What is found under its name when the change has been made.
def value? : AttrChange → Option String
  | set _ value => some value
  | remove _ => none

def make (es : List Field) : AttrChange → List Field
  | set name value => Field.put name value es
  | remove name => (Field.takeOut name es).2

end AttrChange

open AttrChange (make)

-- What the last change of this name left, if there was one.
def lastValue? (changes : List AttrChange) (name : String) : Option String :=
  (changes.reverse.find? (·.name = name)).bind (·.value?)

-- The change at this place brought the name in: it was absent before, and it has been there since.
structure CameIn (changes : List AttrChange) (name : String) (place : Nat) : Prop where
  set : ∃ value, changes[place]? = some (.set name value)
  absent : lastValue? (changes.take place) name = none
  since : ∀ k, place < k → k ≤ changes.length → lastValue? (changes.take k) name ≠ none

def Earlier (changes : List AttrChange) (a b : String) : Prop :=
  ∀ i j, CameIn changes a i → CameIn changes b j → i < j

theorem last_value_append (changes : List AttrChange) (c : AttrChange) (name : String) :
    lastValue? (changes ++ [c]) name =
      if name = c.name then c.value? else lastValue? changes name := by
  rw [lastValue?, List.reverse_append, List.reverse_singleton, List.singleton_append,
    List.find?_cons]
  by_cases own : name = c.name
  · simp [own]
  · have other : decide (c.name = name) = false := decide_eq_false (Ne.symm own)
    rw [if_neg own, other, lastValue?]

theorem take_grown (changes : List AttrChange) (c : AttrChange) (k : Nat) :
    (changes ++ [c]).take k = if k ≤ changes.length then changes.take k else changes ++ [c] := by
  split
  · next old => exact List.take_append_of_le_length old
  · next new =>
      refine List.take_of_length_le ?_
      rw [List.length_append, List.length_singleton]
      omega

theorem set_of_new (changes : List AttrChange) (c : AttrChange) (name : String)
    (absent : lastValue? changes name = none) (present : lastValue? (changes ++ [c]) name ≠ none) :
    ∃ value, c = .set name value := by
  rw [last_value_append] at present
  by_cases own : name = c.name
  · rw [if_pos own] at present
    cases c with
    | set other value => exact ⟨value, by rw [own, AttrChange.name]⟩
    | remove other => exact absurd rfl present
  · rw [if_neg own] at present
    exact absurd absent present

namespace CameIn

variable {changes : List AttrChange} {name : String} {place : Nat}

theorem inside (came : CameIn changes name place) : place < changes.length := by
  obtain ⟨value, found⟩ := came.set
  exact (List.getElem?_eq_some_iff.mp found).1

theorem present (came : CameIn changes name place) : lastValue? changes name ≠ none := by
  have last := came.since changes.length came.inside (Nat.le_refl _)
  rwa [List.take_length] at last

theorem unique (came : CameIn changes name place) (other : Nat)
    (again : CameIn changes name other) : other = place := by
  have notBefore : ¬other < place := fun before =>
    again.since place before (Nat.le_of_lt came.inside) came.absent
  have notBehind : ¬place < other := fun behind =>
    came.since other behind (Nat.le_of_lt again.inside) again.absent
  omega

variable (c : AttrChange)

theorem stays (came : CameIn changes name place)
    (present : lastValue? (changes ++ [c]) name ≠ none) : CameIn (changes ++ [c]) name place := by
  constructor
  case set =>
    rw [List.getElem?_append_left came.inside]
    exact came.set
  case absent =>
    rw [take_grown, if_pos (Nat.le_of_lt came.inside)]
    exact came.absent
  case since =>
    intro k behind _
    rw [take_grown]
    split
    · next old => exact came.since k behind old
    · exact present

theorem last (absent : lastValue? changes name = none)
    (present : lastValue? (changes ++ [c]) name ≠ none) :
    CameIn (changes ++ [c]) name changes.length := by
  obtain ⟨value, same⟩ := set_of_new changes c name absent present
  constructor
  case set => exact ⟨value, by rw [List.getElem?_concat_length, same]⟩
  case absent =>
    rw [List.take_left]
    exact absent
  case since =>
    intro k behind _
    rw [take_grown, if_neg (Nat.not_le_of_gt behind)]
    exact present

theorem before (came : CameIn (changes ++ [c]) name place) (old : place < changes.length) :
    CameIn changes name place := by
  constructor
  case set =>
    have set := came.set
    rwa [List.getElem?_append_left old] at set
  case absent =>
    have absent := came.absent
    rwa [take_grown, if_pos (Nat.le_of_lt old)] at absent
  case since =>
    intro k behind bound
    have since := came.since k behind (by rw [List.length_append]; exact Nat.le_add_right_of_le bound)
    rwa [take_grown, if_pos bound] at since

theorem before_or_last (came : CameIn (changes ++ [c]) name place) :
    CameIn changes name place ∨ lastValue? changes name = none ∧ place = changes.length := by
  have bound := came.inside
  rw [List.length_append, List.length_singleton] at bound
  rcases Nat.lt_or_eq_of_le (Nat.le_of_lt_succ bound) with old | new
  · exact Or.inl (came.before c old)
  · have absent := came.absent
    rw [new, List.take_left] at absent
    exact Or.inr ⟨absent, new⟩

end CameIn

theorem present_iff_came_in (changes : List AttrChange) (name : String) :
    lastValue? changes name ≠ none ↔ ∃! place, CameIn changes name place := by
  constructor
  · intro present
    induction changes using List.reverseRecOn with
    | nil => exact absurd rfl present
    | append_singleton changes c ih =>
        by_cases absent : lastValue? changes name = none
        · have came := CameIn.last c absent present
          exact ⟨changes.length, came, came.unique⟩
        · obtain ⟨place, came, _⟩ := ih absent
          have still := came.stays c present
          exact ⟨place, still, still.unique⟩
  · rintro ⟨place, came, _⟩
    exact came.present

theorem Earlier.grown {changes : List AttrChange} {a b : String} (first : Earlier changes a b)
    (c : AttrChange) (knownA : lastValue? changes a ≠ none) (knownB : lastValue? changes b ≠ none) :
    Earlier (changes ++ [c]) a b := by
  intro i j cameA cameB
  rcases cameA.before_or_last c with oldA | ⟨absentA, _⟩
  · rcases cameB.before_or_last c with oldB | ⟨absentB, _⟩
    · exact first i j oldA oldB
    · exact absurd absentB knownB
  · exact absurd absentA knownA

theorem earlier_than_new {changes : List AttrChange} {a b : String} (c : AttrChange)
    (knownA : lastValue? changes a ≠ none) (absentB : lastValue? changes b = none) :
    Earlier (changes ++ [c]) a b := by
  intro i j cameA cameB
  rcases cameA.before_or_last c with oldA | ⟨absentA, _⟩
  · rcases cameB.before_or_last c with oldB | ⟨_, last⟩
    · exact absurd absentB oldB.present
    · rw [last]
      exact oldA.inside
  · exact absurd absentA knownA

namespace Element

def change (e : Element) : AttrChange → Element
  | .set name value => e.setAttr name value
  | .remove name => (e.takeAttr name).2

def changeAll (e : Element) (changes : List AttrChange) : Element := changes.foldl change e

-- What the changes of an element without attributes have led to.
structure Follows (e : Element) (changes : List AttrChange) : Prop where
  entries : e.attrs.entries = changes.foldl make []
  distinct : ((changes.foldl make []).map Prod.fst).Nodup
  value : ∀ name, e.attr? name = lastValue? changes name
  has : ∀ name, e.hasAttr name ↔ ∃ value, lastValue? changes name = some value
  taken : ∀ name, (e.takeAttr name).1 = e.attr? name
  known : ∀ name, name ∈ e.attrs.names ↔ ∃! place, CameIn changes name place
  order : e.attrs.names.Pairwise (Earlier changes)
  overwritten : ∀ name value, name ∈ e.attrs.names →
    (e.setAttr name value).attrs.names = e.attrs.names
  removed : ∀ name, (e.takeAttr name).2.attrs.names = e.attrs.names.erase name

theorem attr_change (e : Element) (c : AttrChange) (name : String) :
    (e.change c).attr? name = if name = c.name then c.value? else e.attr? name := by
  cases c with
  | set own value => exact attr_set_attr e own name value
  | remove own =>
      rw [change, take_attr_eq]
      exact Fields.get_erase e.attrs own name

theorem entries_change (e : Element) (c : AttrChange) :
    (e.change c).attrs.entries = make e.attrs.entries c := by
  cases c <;> rfl

theorem has_attr_iff (e : Element) (name : String) :
    e.hasAttr name ↔ ∃ value, e.attr? name = some value :=
  Option.isSome_iff_exists

theorem mem_names_iff (e : Element) (name : String) : name ∈ e.attrs.names ↔ e.attr? name ≠ none := by
  rw [Fields.mem_names_iff, Fields.contains, Option.isSome_iff_ne_none, attr?]

theorem names_take_attr (e : Element) (name : String) :
    (e.takeAttr name).2.attrs.names = e.attrs.names.erase name := by
  rw [take_attr_eq]
  exact Fields.names_erase e.attrs name

theorem order_change (e : Element) (changes : List AttrChange) (c : AttrChange)
    (value : ∀ name, e.attr? name = lastValue? changes name)
    (order : e.attrs.names.Pairwise (Earlier changes)) :
    (e.change c).attrs.names.Pairwise (Earlier (changes ++ [c])) := by
  have known (name : String) : name ∈ e.attrs.names ↔ lastValue? changes name ≠ none := by
    rw [mem_names_iff, value]
  have kept : e.attrs.names.Pairwise (Earlier (changes ++ [c])) := by
    refine order.imp_of_mem fun {a b} memberA memberB first => ?_
    exact first.grown c ((known a).mp memberA) ((known b).mp memberB)
  cases c with
  | set name text =>
      rw [change, setAttr, Fields.names_insert]
      split
      · exact kept
      · next absent =>
          refine List.pairwise_append.mpr ⟨kept, List.pairwise_singleton .., ?_⟩
          intro a member b new
          rw [List.mem_singleton.mp new]
          rw [known, not_not] at absent
          exact earlier_than_new _ ((known a).mp member) absent
  | remove name =>
      rw [change, names_take_attr]
      exact kept.sublist List.erase_sublist

theorem change_all_append (e : Element) (changes : List AttrChange) (c : AttrChange) :
    e.changeAll (changes ++ [c]) = (e.changeAll changes).change c :=
  List.foldl_append

section Run

variable (tag : String) (changes : List AttrChange)

theorem attr_change_all (name : String) :
    (({ name := tag } : Element).changeAll changes).attr? name = lastValue? changes name := by
  induction changes using List.reverseRecOn with
  | nil => rfl
  | append_singleton changes c ih =>
      rw [change_all_append, attr_change, last_value_append, ih]

theorem entries_change_all :
    (({ name := tag } : Element).changeAll changes).attrs.entries = changes.foldl make [] := by
  induction changes using List.reverseRecOn with
  | nil => rfl
  | append_singleton changes c ih =>
      rw [change_all_append, entries_change, ih, List.foldl_append]
      rfl

theorem order_change_all :
    (({ name := tag } : Element).changeAll changes).attrs.names.Pairwise (Earlier changes) := by
  induction changes using List.reverseRecOn with
  | nil => exact List.Pairwise.nil
  | append_singleton changes c ih =>
      rw [change_all_append]
      exact order_change _ changes c (attr_change_all tag changes) ih

theorem attributes_follow_changes : (({ name := tag } : Element).changeAll changes).Follows changes := by
  have value := attr_change_all tag changes
  have entries := entries_change_all tag changes
  constructor
  case entries => exact entries
  case distinct =>
    rw [← entries]
    exact Fields.distinct _
  case value => exact value
  case has =>
    intro name
    rw [has_attr_iff, value]
  case taken =>
    intro name
    rw [take_attr_eq]
  case known =>
    intro name
    rw [mem_names_iff, value, present_iff_came_in]
  case order => exact order_change_all tag changes
  case overwritten =>
    intro name text present
    rw [setAttr, Fields.names_insert, if_pos present]
  case removed => exact names_take_attr _

end Run

example : (({ name := "li" } : Element).changeAll
    [.set "id" "x", .set "class" "apple", .remove "id", .set "id" "y",
      .set "class" "pear"]).attrs.entries = [("class", "pear"), ("id", "y")] := by
  decide

end Element

end DomQuery
