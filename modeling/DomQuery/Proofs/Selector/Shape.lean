import DomQuery.Proofs.Selector.Joined
import Mathlib

set_option autoImplicit false

namespace DomQuery.Selector

def AttrTest.name : AttrTest → String
  | .present name | .compare name .. => name

-- Such a condition can only open a compound.
def Simple.isOpening : Simple → Bool
  | .universal | .type _ => true
  | _ => false

def PseudoClass.list? : PseudoClass → Option (Bool × SelectorList)
  | .not list | .is list => some (false, list)
  | .has list => some (true, list)
  | _ => none

def Small (name : String) : Prop := ∀ c ∈ name.toList, ¬ c.isUpper

def Opens (name : String) : Prop :=
  ∃ c word, name.toList = c :: word ∧ isIdentChar c ∧ ¬ Text.isBlank c

-- Blanks at the beginning mean nothing, so an anchor is a combinator with a mark.
def AnchorShape (relative : Bool) (anchor : Option Combinator) : Prop :=
  ∀ combinator, anchor = some combinator → relative ∧ combinator ≠ .descendant

mutual

inductive ListShape : Bool → SelectorList → Prop
  | entries (relative : Bool) (list : SelectorList) (some : list ≠ [])
      (each : ∀ entry ∈ list, EntryShape relative entry) : ListShape relative list

inductive EntryShape : Bool → Complex → Prop
  | compounds (relative : Bool) (entry : Complex) (anchored : AnchorShape relative entry.anchor)
      (joined : entry.compounds.length = entry.combinators.length + 1)
      (each : ∀ parts ∈ entry.compounds, CompoundShape parts) : EntryShape relative entry

inductive CompoundShape : Compound → Prop
  | parts (parts : Compound) (some : parts ≠ []) (opened : ∀ part ∈ parts.tail, ¬ part.isOpening)
      (each : ∀ part ∈ parts, SimpleShape part) : CompoundShape parts

inductive SimpleShape : Simple → Prop
  | universal : SimpleShape .universal
  | type (name : String) (opens : Opens name) (small : Small name) : SimpleShape (.type name)
  | id (name : String) (some : name ≠ "") : SimpleShape (.id name)
  | className (name : String) (some : name ≠ "") : SimpleShape (.className name)
  | test (test : AttrTest) (some : test.name ≠ "") (small : Small test.name) :
      SimpleShape (.attribute test)
  | pseudo (cls : PseudoClass)
      (nested : ∀ relative list, cls.list? = some (relative, list) → ListShape relative list) :
      SimpleShape (.pseudo cls)

end

theorem small_lower (word : List Char) : Small (lowerAscii word) := by
  intro c member
  rw [lowerAscii, String.toList_ofList] at member
  obtain ⟨d, _, rfl⟩ := List.mem_map.mp member
  simp [Char.isUpper_toLower_eq_false]

theorem letter_solid (c : Char) (letter : c.isAlpha) : ¬ Text.isBlank c := by
  have range : (65 ≤ c.toNat ∧ c.toNat ≤ 90) ∨ (97 ≤ c.toNat ∧ c.toNat ≤ 122) := by
    simpa [Char.isAlpha, Char.isUpper, Char.isLower, UInt32.le_iff_toNat_le] using letter
  simp [Text.isBlank]
  omega

theorem opens_lower (c : Char) (inside : isIdentChar c) (solid : ¬ Text.isBlank c) :
    isIdentChar c.toLower ∧ ¬ Text.isBlank c.toLower := by
  by_cases capital : c.isUpper
  · have letter : c.toLower.isAlpha := by
      rw [Char.isAlpha_toLower_eq_isAlpha, Char.isAlpha, capital]
      rfl
    refine ⟨?_, letter_solid c.toLower letter⟩
    simp [isIdentChar, Char.isAlphanum, letter]
  · rw [Char.toLower_eq_of_not_isUpper (by simpa using capital)]
    exact ⟨inside, solid⟩

theorem ident_some (cs word rest : List Char) (read : ident cs = .ok (word, rest)) : word ≠ [] := by
  obtain ⟨⟨found, behind⟩, _, later⟩ := ok_of_bind read
  by_cases empty : found = []
  · simp [empty] at later
  · simp only [empty, if_false] at later
    obtain ⟨rfl, rfl⟩ := Prod.mk.inj (Except.ok.inj later)
    exact empty

theorem ident_first (c : Char) (cs word rest : List Char) (inside : isIdentChar c)
    (read : ident (c :: cs) = .ok (word, rest)) : ∃ tail, word = c :: tail := by
  obtain ⟨⟨found, behind⟩, chars, later⟩ := ok_of_bind read
  rw [ident_chars_inside c cs inside] at chars
  obtain ⟨⟨tail, behind⟩, _, made⟩ := ok_of_map chars
  obtain ⟨rfl, rfl⟩ := Prod.mk.inj made
  simp only [List.cons_ne_nil, if_false] at later
  exact ⟨tail, (Prod.mk.inj (Except.ok.inj later)).1.symm⟩

theorem lower_some (word : List Char) (some : word ≠ []) : lowerAscii word ≠ "" := by
  simpa [lowerAscii] using some

theorem attr_comparison_name (name : String) (cs rest : List Char) (test : AttrTest)
    (read : attrComparison name cs = .ok (test, rest)) : test.name = name := by
  obtain ⟨⟨op, behind⟩, _, later⟩ := ok_of_bind read
  obtain ⟨⟨value, behind⟩, _, later⟩ := ok_of_bind later
  obtain ⟨⟨flag, behind⟩, _, made⟩ := ok_of_bind later
  rw [← (Prod.mk.inj (Except.ok.inj made)).1]
  rfl

theorem attr_test_shape (cs rest : List Char) (test : AttrTest)
    (read : attrTest cs = .ok (test, rest)) : SimpleShape (.attribute test) := by
  obtain ⟨⟨word, behind⟩, named, later⟩ := ok_of_bind read
  have same : test.name = lowerAscii word := by
    simp only [attrCondition] at later
    split at later
    · rw [← (Prod.mk.inj (Except.ok.inj later)).1]
      rfl
    · exact attr_comparison_name _ _ rest test later
  have some := ident_some _ word behind named
  refine .test test ?_ ?_
  · rw [same]
    exact lower_some word some
  · rw [same]
    exact small_lower word

section Nested

variable {nested : Bool → List Char → Reading (SelectorList × List Char)}
  (shaped : ∀ relative cs list rest, nested relative cs = .ok (list, rest) → ListShape relative list)

omit shaped in
theorem list_of_named (name : String) (relative : Bool) (make : SelectorList → PseudoClass)
    (named : listPseudo? name = some (relative, make)) (list : SelectorList) :
    (make list).list? = some (relative, list) := by
  unfold listPseudo? at named
  split at named
  all_goals first | cases named; rfl | cases named

omit shaped in
theorem list_of_nth (name : String) (make : Nth → PseudoClass) (named : nthPseudo? name = some make)
    (e : Nth) : (make e).list? = none := by
  unfold nthPseudo? at named
  split at named
  all_goals first | cases named; rfl | cases named

omit shaped in
theorem list_of_plain (name : String) (cls : PseudoClass) (named : plainPseudo? name = some cls) :
    cls.list? = none := by
  unfold plainPseudo? at named
  split at named
  all_goals first | cases named; rfl | cases named

omit shaped in
theorem shape_without_list (cls : PseudoClass) (bare : cls.list? = none) :
    SimpleShape (.pseudo cls) := by
  refine .pseudo cls fun relative list inner => ?_
  rw [bare] at inner
  cases inner

include shaped

theorem pseudo_argument_shape (name : String) (cs rest : List Char) (cls : PseudoClass)
    (read : pseudoArgument nested name cs = .ok (cls, rest)) : SimpleShape (.pseudo cls) := by
  unfold pseudoArgument at read
  cases positional : nthPseudo? name with
  | some make =>
      simp only [positional] at read
      obtain ⟨e, _, rfl⟩ := read_of_map read fun _ => rfl
      exact shape_without_list _ (list_of_nth name make positional e)
  | none =>
      cases listed : listPseudo? name with
      | some found =>
          obtain ⟨relative, make⟩ := found
          simp only [positional, listed] at read
          obtain ⟨list, inner, rfl⟩ := read_of_map read fun _ => rfl
          refine .pseudo _ fun relative' list' same => ?_
          rw [list_of_named name relative make listed list] at same
          cases same
          exact shaped relative cs list rest inner
      | none =>
          simp only [positional, listed] at read
          by_cases contained : name = "contains"
          · rw [if_pos contained] at read
            obtain ⟨text, _, rfl⟩ := read_of_map read fun _ => rfl
            exact shape_without_list _ rfl
          · rw [if_neg contained] at read
            cases read

theorem pseudo_shape (cs rest : List Char) (cls : PseudoClass)
    (read : pseudo nested cs = .ok (cls, rest)) : SimpleShape (.pseudo cls) := by
  obtain ⟨⟨word, behind⟩, _, later⟩ := ok_of_bind read
  simp only [namedPseudo] at later
  split at later
  · obtain ⟨⟨found, behind⟩, argument, later⟩ := ok_of_bind later
    obtain ⟨behind, _, made⟩ := ok_of_bind later
    rw [← (Prod.mk.inj (Except.ok.inj made)).1]
    exact pseudo_argument_shape shaped _ _ _ found argument
  · cases plain : plainPseudo? (lowerAscii word) with
    | none => simp [plain] at later
    | some found =>
        simp only [plain] at later
        rw [← (Prod.mk.inj (Except.ok.inj later)).1]
        exact shape_without_list found (list_of_plain _ found plain)

theorem condition_shape (cs rest : List Char) (part : Simple)
    (read : condition? nested cs = some (.ok (part, rest))) :
    SimpleShape part ∧ ¬ part.isOpening := by
  unfold condition? at read
  split at read
  · obtain ⟨word, named, rfl⟩ := read_of_map (Option.some.inj read) fun _ => rfl
    have some := ident_some _ word rest named
    exact ⟨.id _ (by simpa using some), nofun⟩
  · obtain ⟨word, named, rfl⟩ := read_of_map (Option.some.inj read) fun _ => rfl
    have some := ident_some _ word rest named
    exact ⟨.className _ (by simpa using some), nofun⟩
  · obtain ⟨test, tested, rfl⟩ := read_of_map (Option.some.inj read) fun _ => rfl
    exact ⟨attr_test_shape _ rest test tested, nofun⟩
  · obtain ⟨cls, named, rfl⟩ := read_of_map (Option.some.inj read) fun _ => rfl
    exact ⟨pseudo_shape shaped _ rest cls named, nofun⟩
  · cases read

theorem conditions_shape (steps : Nat) (cs rest : List Char) (parts : Compound)
    (read : conditions nested steps cs = .ok (parts, rest)) :
    ∀ part ∈ parts, SimpleShape part ∧ ¬ part.isOpening := by
  induction steps generalizing cs parts with
  | zero =>
      obtain ⟨rfl, rfl⟩ := Prod.mk.inj (Except.ok.inj read)
      simp
  | succ steps ih =>
      rw [conditions] at read
      cases found : condition? nested cs with
      | none =>
          rw [found] at read
          obtain ⟨rfl, rfl⟩ := Prod.mk.inj (Except.ok.inj read)
          simp
      | some first =>
          rw [found] at read
          obtain ⟨⟨part, middle⟩, here, later⟩ := ok_of_bind read
          obtain ⟨⟨others, behind⟩, further, made⟩ := ok_of_bind later
          obtain ⟨rfl, rfl⟩ := Prod.mk.inj (Except.ok.inj made)
          intro other member
          rcases List.mem_cons.mp member with rfl | member
          · exact condition_shape shaped cs middle other (found.trans (congrArg some here))
          · exact ih middle others further other member

omit shaped in
theorem opening_shape (cs rest : List Char) (parts : Compound) (solid : skipBlank cs = cs)
    (read : opening cs = .ok (parts, rest)) : parts = [] ∨ ∃ part, parts = [part] ∧ SimpleShape part := by
  cases cs with
  | nil =>
      obtain ⟨rfl, rfl⟩ := Prod.mk.inj (Except.ok.inj read)
      exact Or.inl rfl
  | cons c cs =>
      by_cases star : c = '*'
      · subst star
        obtain ⟨rfl, rfl⟩ := Prod.mk.inj (Except.ok.inj read)
        exact Or.inr ⟨_, rfl, .universal⟩
      · rw [opening_plain c cs star] at read
        by_cases inside : isIdentChar c
        · rw [if_pos inside] at read
          obtain ⟨word, named, rfl⟩ := read_of_map read fun _ => rfl
          obtain ⟨tail, rfl⟩ := ident_first c cs word rest inside named
          obtain ⟨first, visible⟩ := opens_lower c inside (skip_blank_head c _ cs solid)
          refine Or.inr ⟨_, rfl, .type _ ⟨c.toLower, tail.map Char.toLower, ?_, first, visible⟩
            (small_lower _)⟩
          simp [lowerAscii]
        · rw [if_neg inside] at read
          obtain ⟨rfl, rfl⟩ := Prod.mk.inj (Except.ok.inj read)
          exact Or.inl rfl

theorem compound_shape (cs rest : List Char) (parts : Compound) (solid : skipBlank cs = cs)
    (read : compound nested cs = .ok (parts, rest)) : CompoundShape parts := by
  obtain ⟨⟨first, behind⟩, opened, later⟩ := ok_of_bind read
  obtain ⟨⟨others, behind'⟩, further, made⟩ := ok_of_bind later
  have rest := conditions_shape shaped _ _ _ others further
  by_cases empty : first ++ others = []
  · simp [empty] at made
  · simp only [empty, if_false] at made
    obtain ⟨rfl, rfl⟩ := Prod.mk.inj (Except.ok.inj made)
    rcases opening_shape cs behind first solid opened with rfl | ⟨part, rfl, shape⟩
    · exact .parts _ empty (fun part member => (rest part (List.mem_of_mem_tail member)).2)
        fun part member => (rest part member).1
    · refine .parts _ empty (fun other member => (rest other member).2) fun other member => ?_
      rcases List.mem_cons.mp member with rfl | member
      · exact shape
      · exact (rest other member).1

omit shaped in
theorem no_anchor (relative : Bool) : AnchorShape relative none := by
  intro combinator found
  cases found

omit shaped in
theorem anchor_shape (relative : Bool) (cs rest : List Char) (found : Option Combinator)
    (solid : skipBlank cs = cs) (read : anchor relative cs = .ok (found, rest)) :
    AnchorShape relative found ∧ skipBlank rest = rest := by
  cases cs with
  | nil =>
      obtain ⟨rfl, rfl⟩ := Prod.mk.inj (Except.ok.inj read)
      exact ⟨no_anchor relative, rfl⟩
  | cons c cs =>
      cases mark : Combinator.ofMark? c with
      | none =>
          simp only [anchor, mark] at read
          obtain ⟨rfl, rfl⟩ := Prod.mk.inj (Except.ok.inj read)
          exact ⟨no_anchor relative, solid⟩
      | some combinator =>
          cases relative with
          | false => simp [anchor, mark] at read
          | true =>
              simp only [anchor, mark, if_true] at read
              obtain ⟨rfl, rfl⟩ := Prod.mk.inj (Except.ok.inj read)
              refine ⟨fun other same => ⟨rfl, ?_⟩, List.dropWhile_idempotent _ _⟩
              rw [← Option.some.inj same]
              unfold Combinator.ofMark? at mark
              split at mark
              all_goals first | cases mark; simp | cases mark

omit shaped in
theorem separator_solid (cs rest : List Char) (found : Option Combinator)
    (read : separator cs = .ok (found, rest)) : skipBlank rest = rest := by
  cases separates_of_separator cs rest found read with
  | text _ _ => rfl
  | entry blanks tail c _ ends => exact skip_blank_cons c tail (not_blank_of_end c ends)
  | mark blanks tail c combinator _ mark => exact List.dropWhile_idempotent _ _
  | blank blanks tail c _ _ solid _ _ => exact skip_blank_cons c tail solid

theorem continuation_shape (relative : Bool) (steps : Nat) (left final : Complex)
    (cs rest : List Char) (before : EntryShape relative left)
    (read : continuation nested steps left cs = .ok (final, rest)) : EntryShape relative final := by
  induction steps generalizing left cs with
  | zero =>
      obtain ⟨rfl, rfl⟩ := Prod.mk.inj (Except.ok.inj read)
      exact before
  | succ steps ih =>
      rw [continuation] at read
      obtain ⟨⟨found, middle⟩, separates, later⟩ := ok_of_bind read
      cases found with
      | none =>
          obtain ⟨rfl, rfl⟩ := Prod.mk.inj (Except.ok.inj later)
          exact before
      | some combinator =>
          obtain ⟨⟨parts, behind⟩, joined, further⟩ := ok_of_bind later
          have shape := compound_shape shaped middle behind parts
            (separator_solid cs middle _ separates) joined
          refine ih (.link left combinator parts) behind ?_ further
          obtain ⟨_, _, anchored, _, each⟩ := before
          refine .compounds relative _ anchored (Complex.length_compounds _) fun other member => ?_
          rcases List.mem_append.mp member with earlier | last
          · exact each other earlier
          · rw [List.mem_singleton.mp last]
            exact shape

theorem complex_shape (relative : Bool) (cs rest : List Char) (entry : Complex)
    (solid : skipBlank cs = cs) (read : complex nested relative cs = .ok (entry, rest)) :
    EntryShape relative entry := by
  obtain ⟨⟨lead, begun⟩, anchored, later⟩ := ok_of_bind read
  obtain ⟨⟨parts, behind⟩, first, further⟩ := ok_of_bind later
  obtain ⟨lawful, visible⟩ := anchor_shape relative cs begun lead solid anchored
  refine continuation_shape shaped relative _ _ entry behind rest ?_ further
  refine .compounds relative _ lawful rfl fun other member => ?_
  rw [List.mem_singleton.mp member]
  exact compound_shape shaped begun behind parts visible first

theorem entries_shape (relative inner : Bool) (steps : Nat) (cs rest : List Char)
    (list : SelectorList) (read : entries nested relative inner steps cs = .ok (list, rest)) :
    ListShape relative list := by
  induction steps generalizing cs list with
  | zero => cases read
  | succ steps ih =>
      obtain ⟨entry, middle, first, later⟩ := (entries_iff _ _ _ _ _ _).mp read
      have shape := complex_shape shaped relative _ middle entry (List.dropWhile_idempotent _ _) first
      rcases later with ⟨rfl, _, _⟩ | ⟨behind, others, rfl, _, further⟩
      · refine .entries relative _ (List.cons_ne_nil _ _) fun other member => ?_
        rw [List.mem_singleton.mp member]
        exact shape
      · obtain ⟨_, _, _, each⟩ := ih behind others further
        refine .entries relative _ (List.cons_ne_nil _ _) fun other member => ?_
        rcases List.mem_cons.mp member with rfl | member
        · exact shape
        · exact each other member

end Nested

theorem list_at_shape (depth : Nat) (relative inner : Bool) (cs rest : List Char)
    (list : SelectorList) (read : listAt depth relative inner cs = .ok (list, rest)) :
    ListShape relative list := by
  induction depth generalizing relative inner cs rest list with
  | zero => cases read
  | succ depth ih =>
      exact entries_shape (fun relative cs list rest inner => ih relative true cs rest list inner)
        relative inner _ cs rest list read

theorem parse_chars_shape (relative : Bool) (cs : List Char) (list : SelectorList)
    (read : parseChars relative cs = .ok list) : ListShape relative list := by
  obtain ⟨_, rest, entered⟩ := (parse_chars_iff relative cs list).mp read
  exact list_at_shape (cs.length + 1) relative false cs rest list entered

end DomQuery.Selector
