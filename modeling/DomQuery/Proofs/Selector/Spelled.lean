import DomQuery.Proofs.Selector.Composed
import DomQuery.Proofs.Selector.Offsets

set_option autoImplicit false

namespace DomQuery.Selector

-- A condition with all of its identifiers spelled out. A value is written without quotes.
inductive Spelling where
  | id (word : String)
  | className (word : String)
  | present (name : String)
  | compare (name : String) (op : AttrRelation) (value : String) (ignoreCase : Bool)

namespace Spelling

def words : Spelling → List String
  | id word | className word | present word => [word]
  | compare name _ value _ => [name, value]

-- A blank keeps the flag apart from the value.
def closing (ignoreCase : Bool) : List Char := if ignoreCase then [' ', 'i', ']'] else [']']

def written : Spelling → List Char
  | id word => '#' :: escaped word.toList
  | className word => '.' :: escaped word.toList
  | present name => '[' :: (escaped name.toList ++ [']'])
  | compare name op value ignoreCase =>
      '[' :: (escaped name.toList ++ (op.written ++ (escaped value.toList ++ closing ignoreCase)))

def part : Spelling → Simple
  | id word => .id word
  | className word => .className word
  | present name => .attribute (.present (lowerAscii name.toList))
  | compare name op value ignoreCase =>
      .attribute (.compare (lowerAscii name.toList) op value ignoreCase)

theorem begins (spelling : Spelling) : ∃ c tail, spelling.written = c :: tail ∧ isBreak c ∧
    (∀ cs, opening (c :: cs) = .ok ([], c :: cs)) ∧ ¬ Text.isBlank c ∧ Combinator.ofMark? c = none := by
  cases spelling with
  | id word => exact ⟨'#', _, rfl, by decide, fun _ => rfl, by decide, rfl⟩
  | className word => exact ⟨'.', _, rfl, by decide, fun _ => rfl, by decide, rfl⟩
  | present name => exact ⟨'[', _, rfl, by decide, fun _ => rfl, by decide, rfl⟩
  | compare name op value ignoreCase => exact ⟨'[', _, rfl, by decide, fun _ => rfl, by decide, rfl⟩

theorem all_begin (spelling : Spelling) (others : List Spelling) :
    ∃ c tail, (spelling :: others).flatMap written = c :: tail ∧ isBreak c ∧
      opening (c :: tail) = .ok ([], c :: tail) ∧ ¬ Text.isBlank c ∧ Combinator.ofMark? c = none := by
  obtain ⟨c, tail, begun, breaks, opened, solid, free⟩ := spelling.begins
  refine ⟨c, tail ++ others.flatMap written, ?_, breaks, opened _, solid, free⟩
  rw [List.flatMap_cons, begun, List.cons_append]

theorem word_some (words : List String) (word : String) (member : word ∈ words) (filled : "" ∉ words) :
    word.toList ≠ [] := by
  intro empty
  have none : word = "" := by simpa using empty
  exact filled (none ▸ member)

end Spelling

theorem attr_value_escaped (value rest : List Char) (some : value ≠ []) (ends : GoesOn isBreak [] rest) :
    attrValue (escaped value ++ rest) = .ok (value, rest) := by
  cases value with
  | nil => exact absurd rfl some
  | cons c value => exact ident_escaped (c :: value) rest some ends

theorem attr_comparison_escaped (name value : String) (op : AttrRelation) (ignoreCase : Bool)
    (rest : List Char) (some : value ≠ "") :
    attrComparison name (op.written ++ (escaped value.toList ++ (Spelling.closing ignoreCase ++ rest))) =
      .ok (.compare name op value ignoreCase, rest) := by
  have nonempty : value.toList ≠ [] := by simpa using some
  have ends : GoesOn isBreak [] (Spelling.closing ignoreCase ++ rest) := by
    cases ignoreCase <;> rfl
  have closed : attrEnd (skipBlank (Spelling.closing ignoreCase ++ rest)) = .ok (ignoreCase, rest) := by
    cases ignoreCase <;> rfl
  simp only [attrComparison, attr_op_written, bind, Except.bind, skip_escaped _ _ nonempty,
    attr_value_escaped _ _ nonempty ends, closed, String.ofList_toList]

section Nested

variable {nested : Bool → List Char → Reading (SelectorList × List Char)}

theorem condition_spelled (spelling : Spelling) (rest : List Char) (filled : "" ∉ spelling.words)
    (ends : GoesOn isBreak [] rest) :
    condition? nested (spelling.written ++ rest) = some (.ok (spelling.part, rest)) := by
  have nonempty (word : String) (member : word ∈ spelling.words) : word.toList ≠ [] :=
    Spelling.word_some spelling.words word member filled
  cases spelling with
  | id word =>
      have named := ident_escaped word.toList rest (nonempty word (by simp [Spelling.words])) ends
      simp only [Spelling.written, List.cons_append, condition?, named, Except.map, String.ofList_toList,
        Spelling.part]
  | className word =>
      have named := ident_escaped word.toList rest (nonempty word (by simp [Spelling.words])) ends
      simp only [Spelling.written, List.cons_append, condition?, named, Except.map, String.ofList_toList,
        Spelling.part]
  | present name =>
      have named := attr_test_named name.toList (']' :: rest) (nonempty name (by simp [Spelling.words])) rfl
      have test : attrCondition (lowerAscii name.toList) (skipBlank (']' :: rest)) =
          .ok (.present (lowerAscii name.toList), rest) := rfl
      simp only [Spelling.written, List.cons_append, List.append_assoc, List.nil_append, condition?, named,
        test, Except.map, Spelling.part]
  | compare name op value ignoreCase =>
      let tail := op.written ++ (escaped value.toList ++ (Spelling.closing ignoreCase ++ rest))
      have compared := attr_comparison_escaped (lowerAscii name.toList) value op ignoreCase rest
        (by rintro rfl; exact filled (by simp [Spelling.words]))
      have test : attrCondition (lowerAscii name.toList) (skipBlank tail) =
          .ok (.compare (lowerAscii name.toList) op value ignoreCase, rest) := by
        cases op <;> exact compared
      have named := attr_test_named name.toList tail (nonempty name (by simp [Spelling.words]))
        (by cases op <;> rfl)
      simp only [tail] at named test
      simp only [Spelling.written, List.cons_append, List.append_assoc, condition?, named, test, Except.map,
        Spelling.part]

theorem conditions_spelled (others : List Spelling) (steps : Nat)
    (filled : "" ∉ others.flatMap Spelling.words) (enough : others.length ≤ steps) :
    conditions nested steps (others.flatMap Spelling.written) = .ok (others.map Spelling.part, []) := by
  induction others generalizing steps with
  | nil => exact conditions_stay steps [] rfl
  | cons spelling others ih =>
      rw [List.flatMap_cons, List.mem_append, not_or] at filled
      have ends : GoesOn isBreak [] (others.flatMap Spelling.written) := by
        cases others with
        | nil => trivial
        | cons next others =>
            obtain ⟨c, tail, begun, breaks, _⟩ := next.all_begin others
            rw [begun]
            exact breaks
      cases steps with
      | zero => cases enough
      | succ steps =>
          have first : condition? nested (spelling.written ++ others.flatMap Spelling.written) =
              some (.ok (spelling.part, others.flatMap Spelling.written)) :=
            condition_spelled spelling _ filled.1 ends
          exact conditions_step steps _ _ [] _ _ first (ih steps filled.2 (Nat.le_of_succ_le_succ enough))

theorem length_spelled (others : List Spelling) :
    others.length ≤ (others.flatMap Spelling.written).length := by
  induction others with
  | nil => exact Nat.le_refl _
  | cons spelling others ih =>
      obtain ⟨c, tail, begun, _⟩ := spelling.begins
      rw [List.flatMap_cons, begun, List.length_append, List.length_cons, List.length_cons]
      omega

theorem compound_spelled (spelling : Spelling) (others : List Spelling)
    (filled : "" ∉ (spelling :: others).flatMap Spelling.words) :
    compound nested ((spelling :: others).flatMap Spelling.written) =
      .ok ((spelling :: others).map Spelling.part, []) := by
  let cs := (spelling :: others).flatMap Spelling.written
  have read : conditions nested cs.length cs = .ok ((spelling :: others).map Spelling.part, []) :=
    conditions_spelled (spelling :: others) _ filled (length_spelled (spelling :: others))
  obtain ⟨c, tail, begun, _, opened, _⟩ := spelling.all_begin others
  have front : opening cs = .ok ([], cs) := by
    rw [show cs = c :: tail from begun]
    exact opened
  change compound nested cs = _
  simp only [compound, front, read, bind, Except.bind]
  rfl

-- Only the beginning of a compound looks ahead for a character that may stand in an identifier.
theorem compound_backslash (cs : List Char) :
    compound nested ('\\' :: cs) = .error (.stuck ('\\' :: cs)) := by
  have opened : opening ('\\' :: cs) = .ok ([], '\\' :: cs) := rfl
  have none (steps : Nat) : conditions nested steps ('\\' :: cs) = .ok ([], '\\' :: cs) :=
    conditions_stay steps _ rfl
  simp [compound, opened, none, bind, Except.bind]

end Nested

def spelledOut (type : Option String) (others : List Spelling) : String :=
  .ofList ((type.elim [] fun name => escaped name.toList) ++ others.flatMap Spelling.written)

def spelledParts (type : Option String) (others : List Spelling) : Compound :=
  (type.map fun name => .type (lowerAscii name.toList)).toList ++ others.map Spelling.part

theorem parse_spelled (spelling : Spelling) (others : List Spelling)
    (filled : "" ∉ (spelling :: others).flatMap Spelling.words) :
    SelectorList.parse (spelledOut none (spelling :: others)) =
      .ok [.start none (spelledParts none (spelling :: others))] := by
  obtain ⟨c, tail, begun, _, _, solid, free⟩ := spelling.all_begin others
  have first : anchor false (skipBlank (c :: tail)) = .ok (none, c :: tail) := by
    rw [skip_blank_cons c tail solid, anchor, free]
  have text : (spelledOut none (spelling :: others)).toList = c :: tail :=
    (String.toList_ofList).trans begun
  rw [SelectorList.parse, text]
  apply (parse_single_iff false _ _).mpr
  refine ⟨none, c :: tail, _, [], first, ?_, .done _ _ _ rfl⟩
  rw [← begun]
  exact compound_spelled spelling others filled

theorem parse_backslash (cs : List Char) :
    SelectorList.parse (.ofList ('\\' :: cs)) = .error (.unexpectedToken '\\' 0) := by
  have solid : skipBlank ('\\' :: cs) = '\\' :: cs := skip_blank_cons '\\' cs (by decide)
  have free : anchor false ('\\' :: cs) = .ok (none, '\\' :: cs) := rfl
  rw [SelectorList.parse, String.toList_ofList]
  apply parse_chars_of_stuck false [] cs '\\'
  simp [listAt, entries, solid, complex, free, compound_backslash, bind, Except.bind]

theorem escaped_begins (word : String) (filled : word ≠ "") :
    ∃ tail, escaped word.toList = '\\' :: tail := by
  cases split : word.toList with
  | nil => exact absurd (by simpa using split) filled
  | cons c tail => exact ⟨_, rfl⟩

-- The name of a type is refused at the beginning of every compound, and a condition is read in all
-- surroundings that end its last identifier.
theorem spelled_unless_type (type : Option String) (others : List Spelling)
    (nonempty : type ≠ none ∨ others ≠ []) (filled : "" ∉ type.toList ++ others.flatMap Spelling.words) :
    (SelectorList.parse (spelledOut type others) = .ok [.start none (spelledParts type others)] ↔
      type = none) ∧
    (type ≠ none → SelectorList.parse (spelledOut type others) = .error (.unexpectedToken '\\' 0)) ∧
    ∀ (nested : Bool → List Char → Reading (SelectorList × List Char)) (rest : List Char),
      (∀ name ∈ type, compound nested (escaped name.toList ++ rest) =
        .error (.stuck (escaped name.toList ++ rest))) ∧
      (GoesOn isBreak [] rest → ∀ spelling ∈ others,
        condition? nested (spelling.written ++ rest) = some (.ok (spelling.part, rest))) := by
  rw [List.mem_append, not_or] at filled
  have conditions (nested : Bool → List Char → Reading (SelectorList × List Char)) (rest : List Char)
      (ends : GoesOn isBreak [] rest) (spelling : Spelling) (member : spelling ∈ others) :
      condition? nested (spelling.written ++ rest) = some (.ok (spelling.part, rest)) := by
    apply condition_spelled spelling rest _ ends
    exact fun empty => filled.2 (List.mem_flatMap.mpr ⟨spelling, member, empty⟩)
  cases type with
  | none =>
      cases others with
      | nil => simp at nonempty
      | cons spelling others =>
          have read := parse_spelled spelling others filled.2
          exact ⟨iff_of_true read rfl, fun typed => absurd rfl typed,
            fun nested rest => ⟨nofun, conditions nested rest⟩⟩
  | some name =>
      obtain ⟨tail, begun⟩ := escaped_begins name fun empty => filled.1 (by simp [empty])
      have refused : SelectorList.parse (spelledOut (some name) others) =
          .error (.unexpectedToken '\\' 0) := by
        have text : spelledOut (some name) others =
            .ofList ('\\' :: (tail ++ others.flatMap Spelling.written)) := by
          rw [spelledOut, Option.elim_some, begun, List.cons_append]
        rw [text]
        exact parse_backslash _
      refine ⟨iff_of_false (fun read => ?_) nofun, fun _ => refused, fun nested rest =>
        ⟨fun other same => ?_, conditions nested rest⟩⟩
      · cases refused.symm.trans read
      · cases same
        rw [begun]
        exact compound_backslash _

theorem spelled_marks_read :
    let others : List Spelling := [.id "a b", .className "]", .compare "Data:x" .startsWith "'\"" true]
    spelledOut none others = "#\\a\\ \\b.\\][\\D\\a\\t\\a\\:\\x^=\\'\\\" i]" ∧
      others ≠ [] ∧ "" ∉ others.flatMap Spelling.words ∧
      SelectorList.parse (spelledOut none others) = .ok [.start none [.id "a b", .className "]",
        .attribute (.compare "data:x" .startsWith "'\"" true)]] := by
  intro others
  have filled : "" ∉ others.flatMap Spelling.words := by decide
  have read := (spelled_unless_type none others (.inr nofun) filled).1.mpr rfl
  exact ⟨by decide +kernel, nofun, filled, read⟩

theorem spelled_type_refused :
    SelectorList.parse "\\a" = .error (.unexpectedToken '\\' 0) ∧
      SelectorList.parse "\\a" ≠ .ok [.start none [.type "a"]] := by
  have refused : SelectorList.parse "\\a" = .error (.unexpectedToken '\\' 0) := by rfl
  exact ⟨refused, by rw [refused]; nofun⟩

end DomQuery.Selector
