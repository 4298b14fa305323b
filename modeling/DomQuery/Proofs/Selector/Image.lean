import DomQuery.Proofs.Selector.Written

set_option autoImplicit false

namespace DomQuery.Selector

theorem mark_stops (combinator : Combinator) (tail : List Char) :
    GoesOn isStop [] (combinator.mark :: tail) := by
  cases combinator <;> rfl

theorem anchor_written (relative : Bool) (found : Option Combinator) (c : Char) (tail : List Char)
    (shape : AnchorShape relative found) (solid : ¬ Text.isBlank c)
    (unmarked : Combinator.ofMark? c = none) :
    anchor relative ((found.map Combinator.mark).toList ++ c :: tail) = .ok (found, c :: tail) := by
  cases found with
  | none => simp only [Option.map_none, Option.toList_none, List.nil_append, anchor, unmarked]
  | some combinator =>
      obtain ⟨allowed, marked⟩ := shape combinator rfl
      have skipped := skip_blank_cons c tail solid
      cases combinator with
      | descendant => exact absurd rfl marked
      | child | nextSibling | subsequentSibling =>
          simp [anchor, Combinator.mark, Combinator.ofMark?, allowed, skipped]

theorem separator_written (combinator : Combinator) (c : Char) (tail : List Char)
    (solid : ¬ Text.isBlank c) (inside : ¬ isEnd c) (unmarked : Combinator.ofMark? c = none) :
    separator (combinator.mark :: c :: tail) = .ok (some combinator, c :: tail) := by
  apply separator_of_separates
  have skipped := skip_blank_cons c tail solid
  cases combinator with
  | descendant => exact Separates.blank [' '] tail c (by simp) (by simp; rfl) solid inside unmarked
  | child =>
      have marked := Separates.mark [] (c :: tail) '>' .child (by simp) rfl
      rwa [skipped] at marked
  | nextSibling =>
      have marked := Separates.mark [] (c :: tail) '+' .nextSibling (by simp) rfl
      rwa [skipped] at marked
  | subsequentSibling =>
      have marked := Separates.mark [] (c :: tail) '~' .subsequentSibling (by simp) rfl
      rwa [skipped] at marked

theorem entry_left (relative : Bool) (left : Complex) (combinator : Combinator) (parts : Compound)
    (shape : EntryShape relative (.link left combinator parts)) :
    EntryShape relative left ∧ CompoundShape parts := by
  obtain ⟨_, _, anchored, _, each⟩ := shape
  refine ⟨.compounds relative left anchored (Complex.length_compounds left) fun other member => ?_, ?_⟩
  · exact each other (List.mem_append_left _ member)
  · exact each parts (List.mem_append_right _ (List.mem_singleton_self parts))

theorem entry_begins (relative : Bool) : (entry : Complex) → EntryShape relative entry →
    ∃ c tail, entry.written = c :: tail ∧ ¬ Text.isBlank c
  | .start found parts, shape => by
      obtain ⟨_, _, anchored, _, each⟩ := shape
      obtain ⟨c, tail, begun, solid, _⟩ := compound_begins parts (each parts (List.mem_singleton_self _))
      cases found with
      | none => exact ⟨c, tail, by simp [Complex.written, begun], solid⟩
      | some combinator =>
          refine ⟨combinator.mark, compoundWritten parts, rfl, ?_⟩
          have marked := (anchored combinator rfl).2
          cases combinator with
          | descendant => exact absurd rfl marked
          | child | nextSibling | subsequentSibling => decide
  | .link left combinator parts, shape => by
      obtain ⟨c, tail, begun, solid⟩ := entry_begins relative left (entry_left _ _ _ _ shape).1
      exact ⟨c, _, by rw [Complex.written, begun]; rfl, solid⟩

section Nested

variable {nested : Bool → List Char → Reading (SelectorList × List Char)} {length : Nat}
  (reads : ReadsBack nested length)

include reads

-- Read from the left, a written entry comes as far as what follows it allows.
theorem entry_written (relative : Bool) (tail : List Char) (final : Complex) (rest : List Char) :
    (entry : Complex) → EntryShape relative entry → entry.written.length ≤ length →
    GoesOn isStop [] tail → Continues nested entry tail final rest →
    ∃ lead begun parts behind, anchor relative (entry.written ++ tail) = .ok (lead, begun) ∧
      compound nested begun = .ok (parts, behind) ∧
      Continues nested (.start lead parts) behind final rest
  | .start found parts, shape, fits, ends, continues => by
      obtain ⟨_, _, anchored, _, each⟩ := shape
      have shape := each parts (List.mem_singleton_self parts)
      obtain ⟨c, word, begun, solid, _, unmarked⟩ := compound_begins parts shape
      have fewer : (compoundWritten parts).length ≤ length := by
        simp [Complex.written] at fits
        omega
      refine ⟨found, compoundWritten parts ++ tail, parts, tail, ?_,
        compound_written reads parts tail shape fewer ends, continues⟩
      rw [Complex.written, List.append_assoc, begun]
      exact anchor_written relative found c _ anchored solid unmarked
  | .link left combinator parts, shape, fits, ends, continues => by
      obtain ⟨before, shape⟩ := entry_left relative left combinator parts shape
      obtain ⟨c, word, begun, solid, inside, unmarked⟩ := compound_begins parts shape
      have fewer : left.written.length ≤ length ∧ (compoundWritten parts).length ≤ length := by
        simp [Complex.written] at fits
        omega
      have joined := compound_written reads parts tail shape fewer.2 ends
      have separates : separator (combinator.mark :: (compoundWritten parts ++ tail)) =
          .ok (some combinator, compoundWritten parts ++ tail) := by
        rw [begun]
        exact separator_written combinator c _ solid inside unmarked
      rw [Complex.written, List.append_assoc]
      exact entry_written relative _ final rest left before fewer.1 (mark_stops combinator _)
        (Continues.link _ _ _ _ _ _ _ _ separates joined continues)

variable (steady : ∀ relative, Carries never (nested relative) (nested relative))

include steady

theorem complex_written (relative : Bool) (entry : Complex) (tail : List Char)
    (shape : EntryShape relative entry) (fits : entry.written.length ≤ length)
    (ends : GoesOn isEnd [] tail) :
    complex nested relative (skipBlank (entry.written ++ tail)) = .ok (entry, tail) := by
  have last : separator tail = .ok (none, tail) := by
    apply separator_of_separates
    cases tail with
    | nil => exact Separates.text [] (by simp)
    | cons c tail => exact Separates.entry [] tail c (by simp) ends
  have stops := ends.mono stop_of_end
  obtain ⟨lead, begun, parts, behind, anchored, first, continues⟩ := entry_written reads relative
    tail entry tail entry shape fits stops (Continues.done entry tail tail last)
  obtain ⟨c, word, start, solid⟩ := entry_begins relative entry shape
  have stays : skipBlank (entry.written ++ tail) = entry.written ++ tail := by
    rw [start]
    exact skip_blank_cons c _ solid
  rw [stays]
  simp only [complex, anchored, first, bind, Except.bind]
  exact continuation_of_continues steady _ _ _ _ _ (Nat.le_refl _) continues

theorem entries_written (relative enclosed : Bool) (list : SelectorList) (tail : List Char)
    (steps : Nat) (some : list ≠ []) (each : ∀ entry ∈ list, EntryShape relative entry)
    (fits : (listWritten list).length ≤ length) (last : atListEnd enclosed tail)
    (enough : (listWritten list ++ tail).length < steps) :
    entries nested relative enclosed steps (listWritten list ++ tail) = .ok (list, tail) := by
  induction list generalizing steps with
  | nil => exact absurd rfl some
  | cons entry others ih =>
      have shape := each entry List.mem_cons_self
      cases steps with
      | zero => cases enough
      | succ steps =>
          apply (entries_iff _ _ _ _ _ _).mpr
          cases others with
          | nil =>
              have ends : GoesOn isEnd [] tail ∧ skipBlank tail = tail := by
                cases tail with
                | nil => exact ⟨trivial, rfl⟩
                | cons c tail =>
                    have closes : c = ')' := by
                      cases enclosed <;> simp [atListEnd] at last
                      exact last
                    subst closes
                    exact ⟨rfl, skip_blank_cons ')' tail (by decide)⟩
              exact ⟨entry, tail, complex_written reads steady relative entry tail shape fits ends.1,
                Or.inl ⟨rfl, ends.2, last⟩⟩
          | cons next others =>
              have split : listWritten (entry :: next :: others) =
                  entry.written ++ ',' :: listWritten (next :: others) := rfl
              rw [split, List.append_assoc] at enough ⊢
              rw [split] at fits
              simp at fits enough
              have further := ih steps (List.cons_ne_nil _ _)
                (fun other member => each other (List.mem_cons_of_mem entry member)) (by omega)
                (by simp; omega)
              have comma : skipBlank (',' :: (listWritten (next :: others) ++ tail)) =
                  ',' :: (listWritten (next :: others) ++ tail) := skip_blank_cons ',' _ (by decide)
              exact ⟨entry, _, complex_written reads steady relative entry _ shape (by omega) rfl,
                Or.inr ⟨_, _, rfl, comma, further⟩⟩

end Nested

theorem list_at_written (depth : Nat) :
    ReadsBack (fun relative cs => listAt depth relative true cs) depth := by
  induction depth with
  | zero => exact fun _ _ _ _ fewer => absurd fewer (Nat.not_lt_zero _)
  | succ depth ih =>
      intro relative list rest shape fewer
      obtain ⟨_, _, some, each⟩ := shape
      exact entries_written ih (list_at_steady depth) relative true list (')' :: rest) _ some each
        (Nat.le_of_lt_succ fewer) rfl (Nat.lt_succ_self _)

theorem parse_chars_written (relative : Bool) (list : SelectorList)
    (shape : ListShape relative list) : parseChars relative (listWritten list) = .ok list := by
  obtain ⟨_, _, some, each⟩ := shape
  apply (parse_chars_iff relative _ list).mpr
  refine ⟨?_, [], ?_⟩
  · cases list with
    | nil => exact absurd rfl some
    | cons entry others =>
        obtain ⟨c, tail, begun, solid⟩ := entry_begins relative entry (each entry List.mem_cons_self)
        have first : (listWritten (entry :: others)).head? = .some c := by
          cases others <;> simp [listWritten, begun]
        intro blank
        exact solid (List.all_eq_true.mp blank c (List.mem_of_head? first))
  · have read := entries_written (list_at_written (listWritten list).length)
      (list_at_steady (listWritten list).length) relative false list [] ((listWritten list).length + 1)
      some each (Nat.le_refl _) rfl (by simp)
    rwa [List.append_nil] at read

theorem list_shape_relative (list : SelectorList) (shape : ListShape false list) :
    ListShape true list := by
  obtain ⟨_, _, some, each⟩ := shape
  refine .entries true list some fun entry member => ?_
  obtain ⟨_, _, anchored, joined, compounds⟩ := each entry member
  exact .compounds true entry (fun combinator found => ⟨rfl, (anchored combinator found).2⟩) joined
    compounds

-- The texts without and with anchors at the beginning of entries, and one text for both if the
-- list has no such anchor.
theorem well_shaped_iff_read (list : SelectorList) :
    (ListShape false list ↔ ∃ text, SelectorList.parse text = .ok list) ∧
      (ListShape true list ↔ ∃ text, SelectorList.parseRelative text = .ok list) ∧
      (ListShape false list ↔ ∃ text, SelectorList.parse text = .ok list ∧
        SelectorList.parseRelative text = .ok list) := by
  have read (relative : Bool) (shape : ListShape relative list) :
      parseChars relative (SelectorList.written list).toList = .ok list := by
    rw [SelectorList.written, String.toList_ofList]
    exact parse_chars_written relative list shape
  refine ⟨⟨fun shape => ⟨_, read false shape⟩, fun ⟨text, found⟩ => ?_⟩,
    ⟨fun shape => ⟨_, read true shape⟩, fun ⟨text, found⟩ => ?_⟩,
    ⟨fun shape => ⟨_, read false shape, read true (list_shape_relative list shape)⟩,
      fun ⟨text, found, _⟩ => ?_⟩⟩
  · exact parse_chars_shape false text.toList list found
  · exact parse_chars_shape true text.toList list found
  · exact parse_chars_shape false text.toList list found

end DomQuery.Selector
