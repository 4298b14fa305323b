import DomQuery.Proofs.Selector.Shape

set_option autoImplicit false

namespace DomQuery.Selector

def escaped (word : List Char) : List Char := word.flatMap fun c => ['\\', c]

-- No identifier goes on with this character.
def isBreak (c : Char) : Bool := !isIdentChar c && c ≠ '\\'

-- The next condition of a compound may begin with this character.
def isSeam (c : Char) : Bool := isBreak c && c ≠ '('

theorem break_of_seam (c : Char) (seam : isSeam c) : isBreak c :=
  (Bool.and_eq_true_iff.mp seam).1

theorem not_open_of_seam (c : Char) (seam : isSeam c) : c ≠ '(' :=
  of_decide_eq_true (Bool.and_eq_true_iff.mp seam).2

theorem ident_chars_plain (word more : List Char) (plain : ∀ c ∈ word, isIdentChar c) :
    identChars (word ++ more) = (identChars more).map fun r => (word ++ r.1, r.2) := by
  induction word with
  | nil => cases read : identChars more <;> simp [Except.map, read]
  | cons c word ih =>
      rw [List.cons_append, ident_chars_inside c _ (plain c (by simp)),
        ih fun d member => plain d (by simp [member])]
      cases identChars more <;> rfl

theorem ident_chars_escaped (word more : List Char) :
    identChars (escaped word ++ more) = (identChars more).map fun r => (word ++ r.1, r.2) := by
  induction word with
  | nil => cases read : identChars more <;> simp [Except.map, escaped, read]
  | cons c word ih =>
      change identChars ('\\' :: c :: (escaped word ++ more)) = _
      rw [identChars, ih]
      cases identChars more <;> rfl

theorem ident_chars_break (rest : List Char) (ends : GoesOn isBreak [] rest) :
    identChars rest = .ok ([], rest) := by
  cases rest with
  | nil => rfl
  | cons c tail =>
      have outside : isIdentChar c = false ∧ c ≠ '\\' := by
        simpa [isBreak, GoesOn] using ends
      exact ident_chars_outside c tail outside.1 outside.2

theorem ident_of_chars (cs word rest : List Char) (read : identChars cs = .ok (word, rest))
    (some : word ≠ []) : ident cs = .ok (word, rest) := by
  rw [ident, read]
  exact if_neg some

theorem ident_plain (word rest : List Char) (plain : ∀ c ∈ word, isIdentChar c) (some : word ≠ [])
    (ends : GoesOn isBreak [] rest) : ident (word ++ rest) = .ok (word, rest) := by
  apply ident_of_chars _ _ _ _ some
  rw [ident_chars_plain word rest plain, ident_chars_break rest ends]
  simp [Except.map]

theorem ident_escaped (word rest : List Char) (some : word ≠ []) (ends : GoesOn isBreak [] rest) :
    ident (escaped word ++ rest) = .ok (word, rest) := by
  apply ident_of_chars _ _ _ _ some
  rw [ident_chars_escaped word rest, ident_chars_break rest ends]
  simp [Except.map]

theorem ident_opened (c : Char) (word rest : List Char) (inside : isIdentChar c)
    (ends : GoesOn isBreak [] rest) : ident (c :: (escaped word ++ rest)) = .ok (c :: word, rest) := by
  apply ident_of_chars _ _ _ _ (List.cons_ne_nil c word)
  rw [ident_chars_inside c _ inside, ident_chars_escaped word rest, ident_chars_break rest ends]
  simp [Except.map]

theorem lower_ascii_small (name : String) (small : Small name) : lowerAscii name.toList = name := by
  have stays : ∀ c ∈ name.toList, c.toLower = c := fun c member =>
    Char.toLower_eq_of_not_isUpper (small c member)
  rw [lowerAscii, List.map_congr_left stays, List.map_id', String.ofList_toList]

def inQuotes (text : List Char) : List Char := '"' :: (escaped text ++ ['"'])

theorem quoted_chars_escaped (text rest : List Char) :
    quotedChars '"' (escaped text ++ '"' :: rest) = .ok (text, rest) := by
  induction text with
  | nil => rfl
  | cons c text ih =>
      change quotedChars '"' ('\\' :: c :: (escaped text ++ '"' :: rest)) = _
      rw [quotedChars, ih]
      rfl

def AttrRelation.written : AttrRelation → List Char
  | .equals => ['=']
  | .includes => ['~', '=']
  | .dashMatch => ['|', '=']
  | .startsWith => ['^', '=']
  | .endsWith => ['$', '=']
  | .substring => ['*', '=']
  | .notEquals => ['!', '=']

def flagged (ignoreCase : Bool) : List Char := if ignoreCase then ['i', ']'] else [']']

def AttrTest.written : AttrTest → List Char
  | .present name => escaped name.toList ++ [']']
  | .compare name op value ignoreCase =>
      escaped name.toList ++ (op.written ++
        (inQuotes value.toList ++ flagged ignoreCase))

theorem attr_op_written (op : AttrRelation) (rest : List Char) :
    attrOp (op.written ++ rest) = .ok (op, rest) := by
  cases op <;> rfl

theorem skip_escaped (word rest : List Char) (some : word ≠ []) :
    skipBlank (escaped word ++ rest) = escaped word ++ rest := by
  cases word with
  | nil => exact absurd rfl some
  | cons c word => exact skip_blank_cons '\\' _ (by decide)

theorem attr_value_written (value rest : List Char) :
    attrValue (inQuotes value ++ rest) = .ok (value, rest) := by
  have read := quoted_chars_escaped value rest
  simpa [inQuotes, attrValue, isQuote] using read

theorem attr_comparison_written (name : String) (op : AttrRelation) (value : String)
    (ignoreCase : Bool) (rest : List Char) :
    attrComparison name (op.written ++ (inQuotes value.toList ++ (flagged ignoreCase ++ rest))) =
      .ok (.compare name op value ignoreCase, rest) := by
  have solid : skipBlank (inQuotes value.toList ++ (flagged ignoreCase ++ rest)) =
      inQuotes value.toList ++ (flagged ignoreCase ++ rest) := skip_blank_cons '"' _ (by decide)
  have closed : attrEnd (skipBlank (flagged ignoreCase ++ rest)) = .ok (ignoreCase, rest) := by
    cases ignoreCase <;> rfl
  simp only [attrComparison, attr_op_written, bind, Except.bind, solid, attr_value_written, closed,
    String.ofList_toList]

theorem attr_condition_written (test : AttrTest) (rest : List Char) :
    ∃ tail, test.written ++ rest = escaped test.name.toList ++ tail ∧ GoesOn isBreak [] tail ∧
      attrCondition test.name (skipBlank tail) = .ok (test, rest) := by
  cases test with
  | present name =>
      exact ⟨']' :: rest, by simp [AttrTest.written, AttrTest.name], rfl, rfl⟩
  | compare name op value ignoreCase =>
      have read := attr_comparison_written name op value ignoreCase rest
      refine ⟨op.written ++ (inQuotes value.toList ++ (flagged ignoreCase ++ rest)), ?_, ?_, ?_⟩
      · simp [AttrTest.written, AttrTest.name]
      · cases op <;> rfl
      · cases op <;> exact read

theorem attr_test_named (word tail : List Char) (some : word ≠ []) (ends : GoesOn isBreak [] tail) :
    attrTest (escaped word ++ tail) = attrCondition (lowerAscii word) (skipBlank tail) := by
  simp only [attrTest, skip_escaped word tail some, ident_escaped word tail some ends, bind, Except.bind]

theorem attr_test_written (test : AttrTest) (rest : List Char) (some : test.name ≠ "")
    (small : Small test.name) : attrTest (test.written ++ rest) = .ok (test, rest) := by
  obtain ⟨tail, split, ends, read⟩ := attr_condition_written test rest
  have named : test.name.toList ≠ [] := by simpa using some
  rw [split, attr_test_named _ tail named ends, lower_ascii_small test.name small, read]

def signed (n : Int) : List Char := (if n < 0 then '-' else '+') :: Nat.toDigits 10 n.natAbs

def Nth.written (e : Nth) : List Char := signed e.a.toInt ++ 'n' :: signed e.b.toInt

namespace Nth

theorem is_digit_of_mem (n : Nat) (c : Char) (member : c ∈ Nat.toDigits 10 n) : c.isDigit :=
  Nat.isDigit_of_mem_toDigits (by decide) (by decide) member

theorem digits_value (n : Nat) : digitsValue? (Nat.toDigits 10 n) = some n := by
  have value := Nat.ofDigitChars_toDigits (n := n) (b := 10) (by decide) (by decide)
  rw [digitsValue?, if_pos (by simpa using is_digit_of_mem n)]
  exact congrArg some value

theorem to_int32 (n : Int32) : toInt32? n.toInt = some n := by
  rw [toInt32?, if_pos ⟨n.le_toInt, n.toInt_le⟩, Int32.ofInt_toInt]

theorem read_signed (n : Int32) : readInt? (signed n.toInt) = some n := by
  by_cases negative : n.toInt < 0
  · have size : -(n.toInt.natAbs : Int) = n.toInt := by omega
    rw [signed, if_pos negative, readInt?, digits_value, Option.bind_some, size, to_int32]
  · have size : (n.toInt.natAbs : Int) = n.toInt := by omega
    rw [signed, if_neg negative, readInt?, digits_value, Option.bind_some, size, to_int32]

theorem read_factor_signed (n : Int32) : readFactor? (signed n.toInt) = some n := by
  have read := read_signed n
  have some : Nat.toDigits 10 n.toInt.natAbs ≠ [] := Nat.toDigits_ne_nil
  unfold signed at read ⊢
  unfold readFactor?
  split
  · simp_all
  · simp_all
  · simp_all
  · exact read

theorem read_term_signed (n : Int32) : readTerm? (signed n.toInt) = some n := by
  by_cases negative : n.toInt < 0
  · have read := read_signed n
    rw [signed, if_pos negative] at read ⊢
    exact read
  · have size : (n.toInt.natAbs : Int) = n.toInt := by omega
    have digits := is_digit_of_mem n.toInt.natAbs
    have value := digits_value n.toInt.natAbs
    rw [signed, if_neg negative, readTerm?]
    generalize Nat.toDigits 10 n.toInt.natAbs = word at digits value
    cases word with
    | nil => cases value
    | cons c word =>
        have first := digits c List.mem_cons_self
        have plus : c ≠ '+' := by
          rintro rfl
          cases first
        have minus : c ≠ '-' := by
          rintro rfl
          cases first
        rw [List.dropWhile_cons_of_neg (by simpa using plus), readInt?, value, Option.bind_some, size,
          to_int32]
        · simpa using plus
        · simpa using minus

theorem mem_signed (n : Int) (c : Char) (member : c ∈ signed n) : c.isDigit ∨ c = '+' ∨ c = '-' := by
  rcases List.mem_cons.mp member with sign | digit
  · by_cases negative : n < 0
    · exact Or.inr (Or.inr (by rw [sign, if_pos negative]))
    · exact Or.inr (Or.inl (by rw [sign, if_neg negative]))
  · exact Or.inl (is_digit_of_mem _ c digit)

theorem mem_written (e : Nth) (c : Char) (member : c ∈ e.written) :
    c.isDigit ∨ c = '+' ∨ c = '-' ∨ c = 'n' := by
  rw [written, List.mem_append, List.mem_cons] at member
  rcases member with first | rfl | second
  · have := mem_signed _ c first
    tauto
  · tauto
  · have := mem_signed _ c second
    tauto

theorem written_plain (e : Nth) (c : Char) (member : c ∈ e.written) :
    ¬ Text.isBlank c ∧ c.toLower = c ∧ c ≠ ')' := by
  rcases mem_written e c member with digit | rfl | rfl | rfl
  · have range : 48 ≤ c.toNat ∧ c.toNat ≤ 57 := Char.isDigit_iff_toNat.mp digit
    refine ⟨?_, ?_, ?_⟩
    · simp [Text.isBlank]
      omega
    · rw [Char.toLower, dif_neg]
      rintro ⟨above, _⟩
      have bound : 65 ≤ c.toNat := above
      omega
    · rintro rfl
      cases digit
  · decide
  · decide
  · decide

theorem strip_written (e : Nth) : strip e.written = e.written := by
  have solid : ∀ c ∈ e.written, (!Text.isBlank c) = true := fun c member => by
    simpa using (written_plain e c member).1
  have low : ∀ c ∈ e.written, c.toLower = c := fun c member => (written_plain e c member).2.1
  rw [strip, List.filter_eq_self.mpr solid, List.map_congr_left low, List.map_id']

theorem signed_before_n (n : Int) : ∀ c ∈ signed n, decide (c ≠ 'n') = true := by
  intro c member
  rcases mem_signed n c member with digit | rfl | rfl
  · rw [decide_eq_true_eq]
    rintro rfl
    cases digit
  · rfl
  · rfl

theorem read_int_written (e : Nth) : readInt? e.written = none := by
  have letter (word : List Char) : digitsValue? (word ++ 'n' :: signed e.b.toInt) = none := by
    rw [digitsValue?, if_neg]
    simp
  by_cases negative : e.a.toInt < 0
  · rw [written, signed, if_pos negative, List.cons_append, readInt?, letter]
    rfl
  · rw [written, signed, if_neg negative, List.cons_append, readInt?, letter]
    rfl

theorem written_sign (e : Nth) : ∃ c tail, e.written = c :: tail ∧ c ∉ ['o', 'e'] := by
  refine ⟨_, _, rfl, ?_⟩
  split <;> decide

theorem read_written (e : Nth) : readStripped? e.written = some e := by
  obtain ⟨c, tail, begun, sign⟩ := written_sign e
  have odd : e.written ≠ ['o', 'd', 'd'] := by
    rw [begun]
    rintro same
    simp [(List.cons.inj same).1] at sign
  have even : e.written ≠ ['e', 'v', 'e', 'n'] := by
    rw [begun]
    rintro same
    simp [(List.cons.inj same).1] at sign
  have front := signed_before_n e.a.toInt
  have factor : e.written.takeWhile (· ≠ 'n') = signed e.a.toInt := by
    rw [written, List.takeWhile_append_of_pos front]
    simp
  have term : e.written.dropWhile (· ≠ 'n') = 'n' :: signed e.b.toInt := by
    rw [written, List.dropWhile_append_of_pos front]
    simp
  rw [readStripped?, if_neg odd, if_neg even, read_int_written, factor, term]
  simp only [read_factor_signed, read_term_signed, Option.bind_some, Option.map_some]

end Nth

def PseudoClass.name : PseudoClass → String
  | .root => "root"
  | .empty => "empty"
  | .firstChild => "first-child"
  | .lastChild => "last-child"
  | .onlyChild => "only-child"
  | .firstOfType => "first-of-type"
  | .lastOfType => "last-of-type"
  | .onlyOfType => "only-of-type"
  | .nthChild _ => "nth-child"
  | .nthLastChild _ => "nth-last-child"
  | .nthOfType _ => "nth-of-type"
  | .nthLastOfType _ => "nth-last-of-type"
  | .checked => "checked"
  | .disabled => "disabled"
  | .enabled => "enabled"
  | .not _ => "not"
  | .is _ => "is"
  | .has _ => "has"
  | .contains _ => "contains"

def pseudoNames : List String :=
  ["root", "empty", "first-child", "last-child", "only-child", "first-of-type", "last-of-type",
    "only-of-type", "nth-child", "nth-last-child", "nth-of-type", "nth-last-of-type", "checked",
    "disabled", "enabled", "not", "is", "has", "contains"]

def Combinator.mark : Combinator → Char
  | .descendant => ' '
  | .child => '>'
  | .nextSibling => '+'
  | .subsequentSibling => '~'

-- The first character stands as it is, since a name that begins with a backslash is no type.
def typeWritten : List Char → List Char
  | [] => []
  | c :: word => c :: escaped word

mutual

def Simple.written : Simple → List Char
  | .universal => ['*']
  | .type name => typeWritten name.toList
  | .id name => '#' :: escaped name.toList
  | .className name => '.' :: escaped name.toList
  | .attribute test => '[' :: test.written
  | .pseudo cls => ':' :: (cls.name.toList ++ cls.argumentWritten)

def PseudoClass.argumentWritten : PseudoClass → List Char
  | .nthChild e | .nthLastChild e | .nthOfType e | .nthLastOfType e => '(' :: (e.written ++ [')'])
  | .not list | .is list | .has list => '(' :: (listWritten list ++ [')'])
  | .contains text => '(' :: (inQuotes text.toList ++ [')'])
  | _ => []

def compoundWritten : List Simple → List Char
  | [] => []
  | part :: parts => part.written ++ compoundWritten parts

def Complex.written : Complex → List Char
  | .start anchor compound => (anchor.map Combinator.mark).toList ++ compoundWritten compound
  | .link left combinator compound =>
      left.written ++ combinator.mark :: compoundWritten compound

def listWritten : List Complex → List Char
  | [] => []
  | [entry] => entry.written
  | entry :: entries => entry.written ++ ',' :: listWritten entries

end

def SelectorList.written (list : SelectorList) : String := .ofList (listWritten list)

example : SelectorList.written [.link (.start none [.type "ul"]) .child [.className "a", .pseudo (.nthChild ⟨-1, 3⟩)]] =
    "u\\l>.\\a:nth-child(-1n+3)" := by rfl

section Nested

variable {nested : Bool → List Char → Reading (SelectorList × List Char)}

theorem named_plain (cls : PseudoClass) (rest : List Char) (bare : GoesOn isSeam [] rest)
    (plain : plainPseudo? cls.name = some cls) :
    namedPseudo nested cls.name rest = .ok (cls, rest) := by
  cases rest with
  | nil => simp only [namedPseudo, plain]
  | cons c tail =>
      have closed : c ≠ '(' := not_open_of_seam c bare
      rw [named_pseudo_bare cls.name c tail closed, plain]

theorem named_argument (name : String) (cls : PseudoClass) (text rest : List Char)
    (read : pseudoArgument nested name (text ++ ')' :: rest) = .ok (cls, ')' :: rest)) :
    namedPseudo nested name ('(' :: (text ++ ')' :: rest)) = .ok (cls, rest) := by
  simp only [namedPseudo, read, bind, Except.bind, expect_mark]

theorem named_list (name : String) (relative : Bool) (make : SelectorList → PseudoClass)
    (text rest : List Char) (list : SelectorList) (other : nthPseudo? name = none)
    (named : listPseudo? name = some (relative, make))
    (read : nested relative (text ++ ')' :: rest) = .ok (list, ')' :: rest)) :
    namedPseudo nested name ('(' :: (text ++ ')' :: rest)) = .ok (make list, rest) := by
  apply named_argument
  simp only [pseudoArgument, other, named, read, Except.map]

theorem named_nth (name : String) (make : Nth → PseudoClass) (e : Nth) (rest : List Char)
    (named : nthPseudo? name = some make) :
    namedPseudo nested name ('(' :: (e.written ++ ')' :: rest)) = .ok (make e, rest) := by
  have fresh : ')' ∉ e.written := fun member => (e.written_plain ')' member).2.2 rfl
  apply named_argument
  simp only [pseudoArgument, named, nthArgument, until_paren_append e.written rest fresh, bind,
    Except.bind, Nth.strip_written, Nth.read_written, Except.map]

theorem named_contains (text : String) (rest : List Char) :
    namedPseudo nested "contains" ('(' :: (inQuotes text.toList ++ ')' :: rest)) =
      .ok (.contains text, rest) := by
  have read := quoted_chars_escaped text.toList (')' :: rest)
  have argument : containsArgument (inQuotes text.toList ++ ')' :: rest) =
      .ok (text.toList, ')' :: rest) := by
    have solid : skipBlank (')' :: rest) = ')' :: rest := skip_blank_cons ')' rest (by decide)
    simp [inQuotes, containsArgument, isQuote, read, Except.map, solid]
  have solid : skipBlank (inQuotes text.toList ++ ')' :: rest) = inQuotes text.toList ++ ')' :: rest :=
    skip_blank_cons '"' _ (by decide)
  have other : nthPseudo? "contains" = none := rfl
  have unlisted : listPseudo? "contains" = none := rfl
  apply named_argument
  simp only [pseudoArgument, other, unlisted, if_true, solid, argument, Except.map,
    String.ofList_toList]

theorem pseudo_named (name : String) (cls : PseudoClass) (argument rest : List Char)
    (plain : ∀ c ∈ name.toList, isIdentChar c) (some : name ≠ "") (low : lowerAscii name.toList = name)
    (ends : GoesOn isBreak [] argument) (read : namedPseudo nested name argument = .ok (cls, rest)) :
    pseudo nested (name.toList ++ argument) = .ok (cls, rest) := by
  have named := ident_plain name.toList argument plain (by simpa using some) ends
  simp only [pseudo, named, bind, Except.bind, low, read]

theorem pseudo_names_plain :
    (pseudoNames.all fun name => name ≠ "" && name.toList.all fun c => isIdentChar c && !c.isUpper) =
      true := by
  decide +kernel

theorem name_plain_small_nonempty (cls : PseudoClass) : (∀ c ∈ cls.name.toList, isIdentChar c) ∧
    lowerAscii cls.name.toList = cls.name ∧ cls.name ≠ "" := by
  have known : cls.name ∈ pseudoNames := by
    cases cls <;> simp [PseudoClass.name, pseudoNames]
  have facts := List.all_eq_true.mp pseudo_names_plain cls.name known
  simp only [Bool.and_eq_true, decide_eq_true_eq, List.all_eq_true, Bool.not_eq_true'] at facts
  have small : Small cls.name := fun c member => by simp [(facts.2 c member).2]
  exact ⟨fun c member => (facts.2 c member).1, lower_ascii_small cls.name small, facts.1⟩

theorem argument_break (cls : PseudoClass) (rest : List Char) (bare : GoesOn isSeam [] rest) :
    GoesOn isBreak [] (cls.argumentWritten ++ rest) := by
  cases cls
  all_goals first
    | exact (rfl : isBreak '(' = true)
    | exact bare.mono break_of_seam

-- The lists of less than this length are read back in front of a closing parenthesis.
def ReadsBack (nested : Bool → List Char → Reading (SelectorList × List Char)) (length : Nat) : Prop :=
  ∀ relative list rest, ListShape relative list → (listWritten list).length < length →
    nested relative (listWritten list ++ ')' :: rest) = .ok (list, ')' :: rest)

variable {length : Nat} (reads : ReadsBack nested length)

include reads

-- The list in the parentheses is shorter than the whole.
theorem pseudo_written (cls : PseudoClass) (rest : List Char) (shape : SimpleShape (.pseudo cls))
    (fits : (Simple.pseudo cls).written.length ≤ length) (bare : GoesOn isSeam [] rest) :
    pseudo nested (cls.name.toList ++ (cls.argumentWritten ++ rest)) = .ok (cls, rest) := by
  have inner (relative : Bool) (list : SelectorList) (listed : cls.list? = some (relative, list))
      (shorter : (listWritten list).length < length) :
      nested relative (listWritten list ++ ')' :: rest) = .ok (list, ')' :: rest) := by
    cases shape with
    | pseudo _ shapes => exact reads relative list rest (shapes relative list listed) shorter
  obtain ⟨plain, small, some⟩ := name_plain_small_nonempty cls
  apply pseudo_named cls.name cls _ rest plain some small (argument_break cls rest bare)
  cases cls with
  | nthChild e | nthLastChild e | nthOfType e | nthLastOfType e =>
      simp only [PseudoClass.argumentWritten, List.cons_append, List.append_assoc, List.nil_append]
      exact named_nth _ _ e rest rfl
  | not list | is list | has list =>
      have shorter : (listWritten list).length < length := by
        simp [Simple.written, PseudoClass.argumentWritten] at fits
        omega
      simp only [PseudoClass.argumentWritten, List.cons_append, List.append_assoc, List.nil_append]
      exact named_list _ _ _ _ rest list rfl rfl (inner _ list rfl shorter)
  | contains text =>
      simp only [PseudoClass.argumentWritten, List.cons_append, List.append_assoc, List.nil_append]
      exact named_contains text rest
  | _ => exact named_plain _ rest bare rfl

theorem condition_written (part : Simple) (rest : List Char) (shape : SimpleShape part)
    (later : ¬ part.isOpening) (fits : part.written.length ≤ length) (bare : GoesOn isSeam [] rest) :
    condition? nested (part.written ++ rest) = some (.ok (part, rest)) := by
  have ends := bare.mono break_of_seam
  cases shape with
  | universal => exact absurd rfl later
  | type name _ _ => exact absurd rfl later
  | id name some =>
      have named := ident_escaped name.toList rest (by simpa using some) ends
      simp only [Simple.written, List.cons_append, condition?, named, Except.map, String.ofList_toList]
  | className name some =>
      have named := ident_escaped name.toList rest (by simpa using some) ends
      simp only [Simple.written, List.cons_append, condition?, named, Except.map, String.ofList_toList]
  | test test some small =>
      simp only [Simple.written, List.cons_append, condition?, attr_test_written test rest some small,
        Except.map]
  | pseudo cls nested =>
      simp only [Simple.written, List.cons_append, List.append_assoc, condition?,
        pseudo_written reads cls rest (.pseudo cls nested) fits bare, Except.map]

omit reads in
theorem condition_begins (part : Simple) (shape : SimpleShape part) (later : ¬ part.isOpening) :
    ∃ c tail, part.written = c :: tail ∧ c ∈ ['#', '.', '[', ':'] ∧ isSeam c := by
  cases shape with
  | universal => exact absurd rfl later
  | type name _ _ => exact absurd rfl later
  | id name _ => exact ⟨_, _, rfl, by decide, rfl⟩
  | className name _ => exact ⟨_, _, rfl, by decide, rfl⟩
  | test test _ _ => exact ⟨_, _, rfl, by decide, rfl⟩
  | pseudo cls _ => exact ⟨_, _, rfl, by decide, rfl⟩

omit reads in
theorem conditions_seam (parts : Compound) (rest : List Char)
    (shapes : ∀ part ∈ parts, SimpleShape part ∧ ¬ part.isOpening) (ends : GoesOn isStop [] rest) :
    GoesOn isSeam [] (compoundWritten parts ++ rest) := by
  cases parts with
  | nil =>
      refine GoesOn.mono ends fun c stops => ?_
      obtain ⟨outside, other⟩ := stop_outside c stops
      simp [isSeam, isBreak, outside, other, (stop_mark c stops).2.1]
  | cons part parts =>
      obtain ⟨shape, later⟩ := shapes part List.mem_cons_self
      obtain ⟨c, tail, begun, _, seam⟩ := condition_begins part shape later
      rw [compoundWritten, begun]
      exact seam

theorem conditions_written (parts : Compound) (rest : List Char) (steps : Nat)
    (shapes : ∀ part ∈ parts, SimpleShape part ∧ ¬ part.isOpening)
    (fits : (compoundWritten parts).length ≤ length) (ends : GoesOn isStop [] rest)
    (enough : parts.length ≤ steps) :
    conditions nested steps (compoundWritten parts ++ rest) = .ok (parts, rest) := by
  induction parts generalizing steps with
  | nil =>
      have absent : condition? nested [] = none := rfl
      exact conditions_stay steps rest (condition_absent [] rest absent ends)
  | cons part parts ih =>
      obtain ⟨shape, later⟩ := shapes part List.mem_cons_self
      have others := fun other member => shapes other (List.mem_cons_of_mem part member)
      simp only [compoundWritten, List.length_append] at fits
      cases steps with
      | zero => cases enough
      | succ steps =>
          rw [compoundWritten, List.append_assoc]
          apply conditions_step steps _ (compoundWritten parts ++ rest)
          · exact condition_written reads part _ shape later (by omega)
              (conditions_seam parts rest others ends)
          · exact ih steps others (by omega) (Nat.le_of_succ_le_succ enough)

omit reads in
theorem length_parts (parts : Compound)
    (shapes : ∀ part ∈ parts, SimpleShape part ∧ ¬ part.isOpening) :
    parts.length ≤ (compoundWritten parts).length := by
  induction parts with
  | nil => exact Nat.le_refl _
  | cons part parts ih =>
      obtain ⟨shape, later⟩ := shapes part List.mem_cons_self
      obtain ⟨c, tail, begun, _⟩ := condition_begins part shape later
      have fewer := ih fun other member => shapes other (List.mem_cons_of_mem part member)
      simp [compoundWritten, begun]
      omega

theorem compound_opened (first : Compound) (others : Compound) (cs rest : List Char)
    (shapes : ∀ part ∈ others, SimpleShape part ∧ ¬ part.isOpening)
    (fits : (compoundWritten others).length ≤ length) (ends : GoesOn isStop [] rest)
    (opened : opening cs = .ok (first, compoundWritten others ++ rest)) (some : first ++ others ≠ []) :
    compound nested cs = .ok (first ++ others, rest) := by
  have enough : others.length ≤ (compoundWritten others ++ rest).length := by
    have fewer := length_parts others shapes
    simp
    omega
  have read := conditions_written reads others rest _ shapes fits ends enough
  simp only [compound, opened, read, bind, Except.bind]
  exact if_neg some

theorem compound_written (parts : Compound) (rest : List Char) (shape : CompoundShape parts)
    (fits : (compoundWritten parts).length ≤ length) (ends : GoesOn isStop [] rest) :
    compound nested (compoundWritten parts ++ rest) = .ok (parts, rest) := by
  obtain ⟨_, some, opened, each⟩ := shape
  cases parts with
  | nil => exact absurd rfl some
  | cons part others =>
      have shapes : ∀ other ∈ others, SimpleShape other ∧ ¬ other.isOpening := fun other member =>
        ⟨each other (List.mem_cons_of_mem part member), opened other member⟩
      have fewer : (compoundWritten others).length ≤ length := by
        simp [compoundWritten] at fits
        omega
      have seam := conditions_seam others rest shapes ends
      have breaks := seam.mono break_of_seam
      rw [compoundWritten, List.append_assoc]
      have shape := each part List.mem_cons_self
      by_cases first : part.isOpening
      · apply compound_opened reads [part] others _ rest shapes fewer ends _ some
        cases shape with
        | universal => rfl
        | type name opens small =>
            obtain ⟨c, word, begun, inside, _⟩ := opens
            have other : c ≠ '*' := by
              rintro rfl
              cases inside
            have low := lower_ascii_small name small
            rw [begun] at low
            rw [Simple.written, begun, typeWritten, List.cons_append, opening_plain c _ other,
              if_pos inside, ident_opened c word _ inside breaks]
            simp only [Except.map, low]
        | id _ _ => cases first
        | className _ _ => cases first
        | test _ _ _ => cases first
        | pseudo _ _ => cases first
      · have all : ∀ other ∈ part :: others, SimpleShape other ∧ ¬ other.isOpening := by
          intro other member
          rcases List.mem_cons.mp member with rfl | member
          · exact ⟨shape, first⟩
          · exact shapes other member
        obtain ⟨c, tail, begun, mark, _⟩ := condition_begins part shape first
        rw [← List.append_assoc, ← compoundWritten]
        apply compound_opened reads [] (part :: others) _ rest all fits ends _ some
        rw [compoundWritten, begun]
        simp only [List.mem_cons, List.not_mem_nil, or_false] at mark
        rcases mark with rfl | rfl | rfl | rfl <;> rfl

omit reads in
theorem compound_begins (parts : Compound) (shape : CompoundShape parts) :
    ∃ c tail, compoundWritten parts = c :: tail ∧ ¬ Text.isBlank c ∧ ¬ isEnd c ∧
      Combinator.ofMark? c = none := by
  obtain ⟨_, some, _, each⟩ := shape
  cases parts with
  | nil => exact absurd rfl some
  | cons part others =>
      have shape := each part List.mem_cons_self
      by_cases first : part.isOpening
      · cases shape with
        | universal => exact ⟨_, _, rfl, by decide, by decide, rfl⟩
        | type name opens small =>
            obtain ⟨c, word, begun, inside, solid⟩ := opens
            refine ⟨c, escaped word ++ compoundWritten others, ?_, solid, ?_, ?_⟩
            · simp [compoundWritten, Simple.written, begun, typeWritten]
            · intro ends
              rw [(stop_outside c (stop_of_end c ends)).1] at inside
              cases inside
            · unfold Combinator.ofMark?
              split
              all_goals first | cases inside | rfl
        | id _ _ => cases first
        | className _ _ => cases first
        | test _ _ _ => cases first
        | pseudo _ _ => cases first
      · obtain ⟨c, tail, begun, mark, _⟩ := condition_begins part shape first
        refine ⟨c, tail ++ compoundWritten others, by rw [compoundWritten, begun]; rfl, ?_⟩
        simp only [List.mem_cons, List.not_mem_nil, or_false] at mark
        rcases mark with rfl | rfl | rfl | rfl <;> decide

end Nested

end DomQuery.Selector
