import DomQuery.Proofs.Style.RoundTrip

set_option autoImplicit false

namespace DomQuery.Style

-- The first colon has something on both of its sides apart from blanks.
inductive Declares (blank : Char → Bool) : List Char → Field → Prop where
  | sides (left right : List Char) (e : Field) (undivided : ':' ∉ left)
      (name : Text.Stripped blank left e.1.toList) (value : Text.Stripped blank right e.2.toList)
      (named : e.1 ≠ "") (valued : e.2 ≠ "") : Declares blank (left ++ ':' :: right) e

theorem declares_iff (blank : Char → Bool) (segment : List Char) (e : Field) :
    Declares blank segment e ↔ ∃ left right, splitFirst? ':' segment = some (left, right) ∧
      Text.strip blank left = e.1.toList ∧ Text.strip blank right = e.2.toList ∧ e.1 ≠ "" ∧ e.2 ≠ "" := by
  constructor
  · intro declares
    cases declares with
    | sides left right _ undivided name value named valued =>
        have split := (split_first_iff ':' _ left right).mpr ⟨rfl, undivided⟩
        exact ⟨left, right, split, (Text.stripped_iff blank left _).mp name,
          (Text.stripped_iff blank right _).mp value, named, valued⟩
  · intro parts
    obtain ⟨left, right, split, name, value, named, valued⟩ := parts
    obtain ⟨rfl, undivided⟩ := (split_first_iff ':' segment left right).mp split
    exact .sides left right e undivided ((Text.stripped_iff blank left _).mpr name)
      ((Text.stripped_iff blank right _).mpr value) named valued

theorem Declares.unique {blank : Char → Bool} {segment : List Char} {e other : Field}
    (first : Declares blank segment e) (second : Declares blank segment other) : e = other := by
  obtain ⟨left, right, split, name, value, _⟩ := (declares_iff blank segment e).mp first
  obtain ⟨left', right', split', name', value', _⟩ := (declares_iff blank segment other).mp second
  cases split.symm.trans split'
  exact Prod.ext (String.toList_injective (name.symm.trans name'))
    (String.toList_injective (value.symm.trans value'))

theorem declaration_iff (segment : List Char) (e : Field) :
    declaration? segment = some e ↔ Declares Text.isBlank segment e := by
  rw [declares_iff]
  constructor
  · intro read
    obtain ⟨⟨left, right⟩, split, made⟩ := Option.bind_eq_some_iff.mp read
    dsimp only at made
    by_cases empty : Text.trim left = [] || Text.trim right = []
    · rw [if_pos empty] at made
      cases made
    · rw [if_neg empty] at made
      cases made
      rw [Bool.or_eq_true, decide_eq_true_eq, decide_eq_true_eq, not_or] at empty
      have name : Text.strip Text.isBlank left = (String.ofList (Text.trim left)).toList := by
        rw [String.toList_ofList]
        rfl
      have value : Text.strip Text.isBlank right = (String.ofList (Text.trim right)).toList := by
        rw [String.toList_ofList]
        rfl
      exact ⟨left, right, split, name, value, by simpa using empty.1, by simpa using empty.2⟩
  · intro parts
    obtain ⟨left, right, split, name, value, named, valued⟩ := parts
    have trimmedName : Text.trim left = e.1.toList := name
    have trimmedValue : Text.trim right = e.2.toList := value
    rw [declaration?, split]
    simp [trimmedName, trimmedValue, named, valued]

theorem declaration_none_iff (segment : List Char) :
    declaration? segment = none ↔ ∀ e, ¬ Declares Text.isBlank segment e := by
  simp only [← declaration_iff, Option.eq_none_iff_forall_ne_some]

def declared (cs : List Char) : List Field := (cs.splitOn ';').filterMap declaration?

theorem declared_joined (cs more : List Char) :
    declared (cs ++ ';' :: more) = declared cs ++ declared more := by
  rw [declared, List.splitOn_append_cons_self, List.filterMap_append]
  rfl

theorem not_declared_iff (segments : List (List Char)) (name : String) :
    (segments.filterMap declaration?).reverse.lookup name = none ↔
      ∀ segment ∈ segments, ∀ value, ¬ Declares Text.isBlank segment (name, value) := by
  simp only [List.lookup_eq_none_iff, List.mem_reverse, List.mem_filterMap, declaration_iff]
  constructor
  · intro absent segment member value declares
    have other := absent (name, value) ⟨segment, member, declares⟩
    simp at other
  · intro none e declared
    obtain ⟨segment, member, declares⟩ := declared
    by_contra same
    have own : name = e.1 := by simpa using same
    subst own
    exact none segment member e.2 declares

theorem own_value_iff (segment : List Char) (name value : String) :
    (declaration? segment).toList.lookup name = some value ↔
      Declares Text.isBlank segment (name, value) := by
  rw [← declaration_iff]
  cases read : declaration? segment with
  | none => simp
  | some e =>
      obtain ⟨key, text⟩ := e
      by_cases same : name = key
      · simp [same]
      · have missed : (name == key) = false := by simpa using same
        simp [List.lookup_cons, missed, Ne.symm same]

theorem last_declared_iff (segments : List (List Char)) (name value : String) :
    (segments.filterMap declaration?).reverse.lookup name = some value ↔
      ∃ before segment after, segments = before ++ segment :: after ∧
        Declares Text.isBlank segment (name, value) ∧
        ∀ other ∈ after, ∀ v, ¬ Declares Text.isBlank other (name, v) := by
  induction segments with
  | nil => simp
  | cons first rest ih =>
      have parts : ((first :: rest).filterMap declaration?).reverse.lookup name =
          ((rest.filterMap declaration?).reverse.lookup name).or
            ((declaration? first).toList.lookup name) := by
        rw [← List.lookup_append]
        cases read : declaration? first with
        | none => simp [read]
        | some e => simp [read]
      rw [parts, Option.or_eq_some_iff, ih, not_declared_iff, own_value_iff]
      constructor
      · intro found
        rcases found with ⟨before, segment, after, rfl, declares, last⟩ | ⟨last, declares⟩
        · exact ⟨first :: before, segment, after, rfl, declares, last⟩
        · exact ⟨[], first, rest, rfl, declares, last⟩
      · intro found
        obtain ⟨before, segment, after, split, declares, last⟩ := found
        cases before with
        | nil =>
            cases split
            exact Or.inr ⟨last, declares⟩
        | cons _ before =>
            cases split
            exact Or.inl ⟨before, segment, after, rfl, declares, last⟩

end DomQuery.Style
