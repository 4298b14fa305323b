import DomQuery.Proofs.Selector.Stuck

set_option autoImplicit false

namespace DomQuery.Selector

theorem byte_length_of_list (cs : List Char) : byteLength cs = (String.ofList cs).utf8ByteSize := by
  induction cs with
  | nil => rfl
  | cons c cs ih =>
      have split : String.ofList (c :: cs) = .singleton c ++ .ofList cs := by
        rw [String.singleton_eq_ofList, ← String.ofList_append]
        rfl
      rw [byteLength, ih, split, String.utf8ByteSize_append, String.utf8ByteSize_singleton]

theorem byte_length_append (front back : List Char) :
    byteLength (front ++ back) = byteLength front + byteLength back := by
  rw [byte_length_of_list, byte_length_of_list, byte_length_of_list, String.ofList_append,
    String.utf8ByteSize_append]

def IsRest (text : String) (rest : List Char) : Prop := ∃ front, text = front ++ .ofList rest

theorem IsRest.of_suffix {text : String} {cs rest : List Char} (inside : IsRest text cs)
    (suffix : rest <:+ cs) : IsRest text rest := by
  obtain ⟨front, rfl⟩ := inside
  obtain ⟨middle, rfl⟩ := suffix
  exact ⟨front ++ .ofList middle, by rw [String.ofList_append, String.append_assoc]⟩

-- Begun between two characters, reading ends between two characters, whether it gets through or
-- gets stuck.
def StaysInside {α : Type} (f : List Char → Reading (α × List Char)) : Prop :=
  ∀ text cs, IsRest text cs → (∀ a rest, f cs = .ok (a, rest) → IsRest text rest) ∧
    ∀ rest, f cs = .error (.stuck rest) → IsRest text rest

theorem stays_inside {α : Type} {stop : Char → Bool} {f : List Char → Reading (α × List Char)}
    (carries : Carries stop f f) (sticks : Sticks f) : StaysInside f := by
  intro text cs inside
  constructor
  · intro a rest read
    obtain ⟨front, split, _⟩ := carries cs a rest read
    exact inside.of_suffix ⟨front, split.symm⟩
  · intro rest stuck
    cases rest with
    | nil => exact inside.of_suffix (List.nil_suffix)
    | cons c rest =>
        obtain ⟨front, split, _⟩ := sticks cs c rest stuck
        exact inside.of_suffix ⟨front, split.symm⟩

structure PartsInside (nested : Bool → List Char → Reading (SelectorList × List Char)) : Prop where
  word : StaysInside ident
  quoted : ∀ mark, StaysInside (quotedChars mark)
  raw : ∀ cs word rest, untilParen cs = .ok (word, rest) → cs = word ++ rest
  test : StaysInside attrTest
  pseudo : StaysInside (pseudo nested)
  compound : StaysInside (compound nested)
  separator : StaysInside separator
  complex : ∀ relative, StaysInside (complex nested relative)

theorem parts_inside (depth : Nat) : PartsInside fun relative => listAt depth relative true := by
  have steady := list_at_steady depth
  have sticks (relative : Bool) := list_at_sticks depth relative true
  constructor
  case word => exact stays_inside ident_carries ident_sticks
  case quoted =>
    intro mark
    exact stays_inside (quoted_chars_carries mark never) fun cs => .of_end (quoted_chars_failed mark cs)
  case raw =>
    intro cs word rest read
    by_cases closed : ')' ∈ cs
    · rw [untilParen, if_pos closed] at read
      obtain ⟨rfl, rfl⟩ := Prod.mk.inj (Except.ok.inj read)
      exact List.takeWhile_append_dropWhile.symm
    · rw [untilParen, if_neg closed] at read
      cases read
  case test => exact stays_inside attr_test_carries attr_test_sticks
  case pseudo => exact stays_inside (pseudo_carries steady) (pseudo_sticks sticks steady)
  case compound => exact stays_inside (compound_carries steady) (compound_sticks sticks steady)
  case separator => exact stays_inside separator_carries separator_sticks
  case complex =>
    intro relative
    exact stays_inside (complex_carries steady steady steady relative)
      (complex_sticks sticks steady relative)

theorem list_carries (depth : Nat) (relative enclosed : Bool) :
    Carries never (listAt depth relative enclosed) (listAt depth relative enclosed) := by
  cases depth with
  | zero => exact Carries.fail fun _ _ read => nomatch read
  | succ depth =>
      have steady := list_at_steady depth
      exact list_at_carries_of_nested depth depth relative enclosed steady steady steady

-- More steps than the text has characters change nothing.
structure StepsEnough (nested : Bool → List Char → Reading (SelectorList × List Char)) : Prop where
  conditions : ∀ steps cs, cs.length ≤ steps →
    conditions nested steps cs = conditions nested cs.length cs
  continuation : ∀ steps left cs, cs.length ≤ steps →
    continuation nested steps left cs = continuation nested cs.length left cs
  entries : ∀ relative enclosed steps cs, cs.length < steps →
    entries nested relative enclosed steps cs = entries nested relative enclosed (cs.length + 1) cs

theorem steps_enough (depth : Nat) : StepsEnough fun relative => listAt depth relative true := by
  have steady := list_at_steady depth
  constructor
  case conditions =>
    intro steps cs enough
    exact conditions_within (fun _ _ _ => rfl) steady steps _ cs (Nat.le_refl _) enough (Nat.le_refl _)
  case continuation =>
    intro steps left cs enough
    exact continuation_within (fun _ _ _ => rfl) steady steps _ left cs (Nat.le_refl _) enough
      (Nat.le_refl _)
  case entries =>
    intro relative enclosed steps cs enough
    exact entries_within (fun _ _ _ => rfl) steady relative enclosed steps _ cs (Nat.le_refl _) enough
      (Nat.lt_succ_self _)

theorem list_at_skip_blank (depth : Nat) (relative enclosed : Bool) (cs : List Char) :
    listAt (depth + 1) relative enclosed (skipBlank cs) = listAt (depth + 1) relative enclosed cs := by
  have twice : skipBlank (skipBlank cs) = skipBlank cs := List.dropWhile_idempotent _ _
  rw [listAt, listAt, entries_next (list_at_steady depth), entries_next (list_at_steady depth), twice]

-- A blank in front of an entry is no place to get stuck at.
theorem stuck_solid (depth : Nat) (relative enclosed : Bool) (front rest : List Char) (c : Char)
    (stuck : listAt (depth + 1) relative enclosed (front ++ c :: rest) = .error (.stuck (c :: rest))) :
    ∃ b ∈ front ++ [c], ¬ Text.isBlank b := by
  by_contra! blank
  have skipped : skipBlank (front ++ c :: rest) = skipBlank rest := by
    rw [List.append_cons]
    exact skip_blank_append _ rest blank
  rw [← list_at_skip_blank, skipped] at stuck
  obtain ⟨front', split, _⟩ := list_at_sticks _ relative enclosed _ c rest stuck
  have shorter := List.length_dropWhile_le Text.isBlank rest
  rw [show rest.dropWhile Text.isBlank = front' ++ c :: rest from split] at shorter
  simp at shorter
  omega

-- The depth that is allowed depends on the text, but reading makes nothing of it.
theorem stuck_again (relative enclosed : Bool) (front rest rest' : List Char) (c : Char)
    (stuck : listAt ((front ++ c :: rest).length + 1) relative enclosed (front ++ c :: rest) =
      .error (.stuck (c :: rest))) :
    listAt ((front ++ c :: rest').length + 1) relative enclosed (front ++ c :: rest') =
      .error (.stuck (c :: rest')) := by
  let depth := (front ++ c :: rest).length + (front ++ c :: rest').length + 1
  rw [list_at_within _ depth relative enclosed _ (Nat.lt_succ_self _) (by omega)] at stuck
  rw [list_at_within _ depth relative enclosed _ (Nat.lt_succ_self _) (by omega)]
  obtain ⟨front', split, again⟩ := list_at_sticks depth relative enclosed _ c rest stuck
  rw [List.append_cancel_right split]
  exact again rest'

theorem stuck_of_unexpected (text : List Char) (reject : Reject) (token : Char) (offset : Nat)
    (told : reject.toError text = .unexpectedToken token offset) :
    ∃ rest, reject = .stuck (token :: rest) ∧
      offset = byteLength text - byteLength (token :: rest) := by
  cases reject with
  | stuck rest =>
      cases rest with
      | nil => cases told
      | cons c rest =>
          obtain ⟨rfl, rfl⟩ := Error.unexpectedToken.inj told
          exact ⟨rest, rfl, rfl⟩
  | unmatchedPseudoClass name => cases told
  | invalidNth raw => cases told

theorem parse_chars_of_stuck (relative : Bool) (front rest : List Char) (token : Char)
    (stuck : listAt ((front ++ token :: rest).length + 1) relative false (front ++ token :: rest) =
      .error (.stuck (token :: rest))) :
    parseChars relative (front ++ token :: rest) =
      .error (.unexpectedToken token (byteLength front)) := by
  obtain ⟨b, member, solid⟩ := stuck_solid _ relative false front rest token stuck
  have some : ¬ (front ++ token :: rest).all Text.isBlank := by
    intro blank
    rw [List.append_cons] at blank
    exact solid (List.all_eq_true.mp blank b (List.mem_append_left rest member))
  rw [parseChars, if_neg some, stuck]
  change Except.error (Error.unexpectedToken token
    (byteLength (front ++ token :: rest) - byteLength (token :: rest))) = _
  rw [byte_length_append, Nat.add_sub_cancel]

theorem parse_chars_stuck (relative : Bool) (cs : List Char) (token : Char) (offset : Nat)
    (failed : parseChars relative cs = .error (.unexpectedToken token offset)) :
    ∃ front rest, cs = front ++ token :: rest ∧ offset = byteLength front ∧
      ∀ rest', parseChars relative (front ++ token :: rest') =
        .error (.unexpectedToken token offset) := by
  rw [parseChars] at failed
  by_cases blank : cs.all Text.isBlank
  · rw [if_pos blank] at failed
    cases failed
  · rw [if_neg blank] at failed
    cases read : listAt (cs.length + 1) relative false cs with
    | ok result => simp [read] at failed
    | error reject =>
        rw [read] at failed
        obtain ⟨rest, rfl, rfl⟩ := stuck_of_unexpected cs reject token offset
          (Except.error.inj failed)
        obtain ⟨front, rfl, _⟩ := list_at_sticks _ relative false cs token rest read
        have place : byteLength (front ++ token :: rest) - byteLength (token :: rest) =
            byteLength front := by
          rw [byte_length_append, Nat.add_sub_cancel]
        rw [place]
        exact ⟨front, rest, rfl, rfl, fun rest' =>
          parse_chars_of_stuck relative front rest' token (stuck_again _ _ _ rest rest' token read)⟩

theorem unexpected_at (relative : Bool) (text : String) (token : Char) (offset : Nat)
    (failed : parseChars relative text.toList = .error (.unexpectedToken token offset)) :
    ∃ before rest : String, text = before ++ .singleton token ++ rest ∧
      offset = before.utf8ByteSize ∧ ∀ rest' : String,
        parseChars relative (before ++ .singleton token ++ rest').toList =
          .error (.unexpectedToken token offset) := by
  obtain ⟨front, rest, split, place, again⟩ := parse_chars_stuck relative text.toList token offset
    failed
  refine ⟨.ofList front, .ofList rest, ?_, ?_, fun rest' => ?_⟩
  · rw [← String.toList_inj, split]
    simp
  · rw [place, byte_length_of_list]
  · simpa using again rest'.toList

theorem errors_stand :
    (∀ parse ∈ [SelectorList.parse, SelectorList.parseRelative], ∀ text token offset,
      parse text = .error (.unexpectedToken token offset) →
      ∃ before rest : String, text = before ++ .singleton token ++ rest ∧
        offset = before.utf8ByteSize ∧ ∀ rest' : String,
          parse (before ++ .singleton token ++ rest') = .error (.unexpectedToken token offset)) ∧
    (∀ depth, PartsInside fun relative => listAt depth relative true) ∧
    (∀ depth relative enclosed, StaysInside (listAt depth relative enclosed)) ∧
    (∀ depth, StepsEnough fun relative => listAt depth relative true) ∧
    ∀ depth relative enclosed (cs : List Char), cs.length < depth →
      listAt depth relative enclosed cs = listAt (cs.length + 1) relative enclosed cs := by
  refine ⟨?_, parts_inside, ?_, steps_enough, ?_⟩
  · intro parse either text token offset failed
    simp only [List.mem_cons, List.not_mem_nil, or_false] at either
    rcases either with rfl | rfl
    · exact unexpected_at false text token offset failed
    · exact unexpected_at true text token offset failed
  · intro depth relative enclosed
    exact stays_inside (list_carries depth relative enclosed) (list_at_sticks depth relative enclosed)
  · intro depth relative enclosed cs enough
    exact list_at_within depth _ relative enclosed cs enough (Nat.lt_succ_self _)

theorem doubled_mark_stands :
    SelectorList.parse "é:is(.a, ü>>b) c" = .error (.unexpectedToken '>' 13) ∧
      ∃ before rest : String, "é:is(.a, ü>>b) c" = before ++ .singleton '>' ++ rest ∧
        13 = before.utf8ByteSize ∧ ∀ rest' : String,
          SelectorList.parse (before ++ .singleton '>' ++ rest') =
            .error (.unexpectedToken '>' 13) := by
  have failed : SelectorList.parse "é:is(.a, ü>>b) c" = .error (.unexpectedToken '>' 13) := by rfl
  exact ⟨failed, errors_stand.1 SelectorList.parse List.mem_cons_self _ '>' 13 failed⟩

end DomQuery.Selector
