import DomQuery.Proofs.Selector.Compound

set_option autoImplicit false

namespace DomQuery.Selector

theorem comma_or_paren_of_end (c : Char) (ends : isEnd c) : c = ',' ∨ c = ')' := by
  simpa [isEnd] using ends

theorem not_blank_of_end (c : Char) (ends : isEnd c) : ¬ Text.isBlank c := by
  rcases comma_or_paren_of_end c ends with rfl | rfl <;> decide

theorem stop_of_end (c : Char) (ends : isEnd c) : isStop c := by
  rcases comma_or_paren_of_end c ends with rfl | rfl <;> decide

theorem not_blank_not_end_of_mark (c : Char) (combinator : Combinator)
    (mark : Combinator.ofMark? c = some combinator) : ¬ Text.isBlank c ∧ ¬ isEnd c := by
  unfold Combinator.ofMark? at mark
  split at mark
  · decide
  · decide
  · decide
  · cases mark

-- What stands behind a compound: the end of the text or of an entry, or a combinator, for which
-- blanks are enough.
inductive Separates : List Char → Option Combinator → List Char → Prop
  | text (blanks : List Char) (blank : ∀ b ∈ blanks, Text.isBlank b) : Separates blanks none []
  | entry (blanks rest : List Char) (c : Char) (blank : ∀ b ∈ blanks, Text.isBlank b)
      (ends : isEnd c) : Separates (blanks ++ c :: rest) none (c :: rest)
  | mark (blanks rest : List Char) (c : Char) (combinator : Combinator)
      (blank : ∀ b ∈ blanks, Text.isBlank b) (mark : Combinator.ofMark? c = some combinator) :
      Separates (blanks ++ c :: rest) (some combinator) (skipBlank rest)
  | blank (blanks rest : List Char) (c : Char) (spaced : blanks ≠ [])
      (blank : ∀ b ∈ blanks, Text.isBlank b) (solid : ¬ Text.isBlank c) (inside : ¬ isEnd c)
      (unmarked : Combinator.ofMark? c = none) :
      Separates (blanks ++ c :: rest) (some .descendant) (c :: rest)

theorem separator_of_separates (cs rest : List Char) (found : Option Combinator)
    (separates : Separates cs found rest) : separator cs = .ok (found, rest) := by
  cases separates with
  | text _ blank =>
      have skipped : skipBlank cs = [] := List.dropWhile_eq_nil_iff.mpr blank
      rw [separator, skipped]
  | entry blanks rest c blank ends =>
      rw [separator, skip_blank_append _ _ blank, skip_blank_cons _ _ (not_blank_of_end c ends)]
      exact if_pos ends
  | mark blanks rest c combinator blank mark =>
      obtain ⟨solid, inside⟩ := not_blank_not_end_of_mark c combinator mark
      rw [separator, skip_blank_append _ _ blank, skip_blank_cons _ _ solid]
      simp only [mark]
      exact if_neg inside
  | blank blanks rest c spaced blank solid inside unmarked =>
      rw [separator, skip_blank_append _ _ blank, skip_blank_cons _ _ solid]
      simp only [unmarked]
      refine (if_neg inside).trans (if_pos ?_)
      cases blanks with
      | nil => exact absurd rfl spaced
      | cons b blanks => exact blank b List.mem_cons_self

theorem separates_of_separator (cs rest : List Char) (found : Option Combinator)
    (read : separator cs = .ok (found, rest)) : Separates cs found rest := by
  obtain ⟨blanks, split, blank⟩ := skip_blank_split cs
  rw [separator] at read
  cases skipped : skipBlank cs with
  | nil =>
      rw [skipped] at read split
      obtain ⟨rfl, rfl⟩ := Prod.mk.inj (Except.ok.inj read)
      rw [split, List.append_nil]
      exact Separates.text blanks blank
  | cons c tail =>
      have solid := skip_blank_head c cs tail skipped
      rw [skipped] at read split
      simp only at read
      by_cases ends : isEnd c
      · rw [if_pos ends] at read
        obtain ⟨rfl, rfl⟩ := Prod.mk.inj (Except.ok.inj read)
        rw [split]
        exact Separates.entry blanks tail c blank ends
      · rw [if_neg ends] at read
        cases mark : Combinator.ofMark? c with
        | some combinator =>
            simp only [mark] at read
            obtain ⟨rfl, rfl⟩ := Prod.mk.inj (Except.ok.inj read)
            rw [split]
            exact Separates.mark blanks tail c combinator blank mark
        | none =>
            simp only [mark] at read
            cases blanks with
            | nil =>
                have tight : ¬ cs.head?.any Text.isBlank = true := by
                  rw [split]
                  exact solid
                rw [if_neg tight] at read
                cases read
            | cons b blanks =>
                have spaced : cs.head?.any Text.isBlank = true := by
                  rw [split]
                  exact blank b List.mem_cons_self
                rw [if_pos spaced] at read
                obtain ⟨rfl, rfl⟩ := Prod.mk.inj (Except.ok.inj read)
                rw [split]
                exact Separates.blank (b :: blanks) tail c (List.cons_ne_nil _ _) blank solid ends mark

theorem separator_carries : Carries isEnd separator separator := by
  intro cs found rest read
  have separates := separates_of_separator cs rest found read
  suffices carried : ∃ front, cs = front ++ rest ∧
      ∀ rest', GoesOn isEnd rest rest' → Separates (front ++ rest') found rest' by
    obtain ⟨front, split, carried⟩ := carried
    exact ⟨front, split, fun rest' alike => separator_of_separates _ _ _ (carried rest' alike)⟩
  cases separates with
  | text _ blank =>
      refine ⟨cs, (List.append_nil cs).symm, fun rest' alike => ?_⟩
      cases rest' with
      | nil =>
          rw [List.append_nil]
          exact Separates.text cs blank
      | cons c tail => exact Separates.entry cs tail c blank alike
  | entry blanks tail c blank ends =>
      refine ⟨blanks, rfl, fun rest' alike => ?_⟩
      obtain ⟨tail', rfl⟩ := alike.cons
      exact Separates.entry blanks tail' c blank ends
  | mark blanks tail c combinator blank mark =>
      obtain ⟨gap, split, blankGap⟩ := skip_blank_split tail
      refine ⟨blanks ++ c :: gap, by simp [← split], fun rest' alike => ?_⟩
      have stays :=
        skip_blank_alike _ rest' (List.dropWhile_idempotent _ _) alike not_blank_of_end
      have marked := Separates.mark blanks (gap ++ rest') c combinator blank mark
      rwa [skip_blank_append _ _ blankGap, stays, ← List.cons_append, ← List.append_assoc] at marked
  | blank blanks tail c spaced blank solid inside unmarked =>
      refine ⟨blanks, rfl, fun rest' alike => ?_⟩
      obtain ⟨tail', rfl⟩ := alike.cons
      exact Separates.blank blanks tail' c spaced blank solid inside unmarked

theorem separator_shorter (cs rest : List Char) (combinator : Combinator)
    (read : separator cs = .ok (some combinator, rest)) : rest.length < cs.length := by
  cases separates_of_separator cs rest _ read with
  | mark blanks tail c _ _ _ =>
      have fewer := List.length_dropWhile_le Text.isBlank tail
      simp only [List.length_append, List.length_cons, skipBlank, Text.trimStart]
      omega
  | blank blanks tail c spaced _ _ _ _ =>
      have some := List.length_pos_iff.mpr spaced
      simp only [List.length_append, List.length_cons]
      omega

section Continuation

-- The compounds that follow `left`, one after the other, up to the end of an entry.
inductive Continues (nested : Bool → List Char → Reading (SelectorList × List Char)) :
    Complex → List Char → Complex → List Char → Prop
  | done (left : Complex) (cs rest : List Char) (ends : separator cs = .ok (none, rest)) :
      Continues nested left cs left rest
  | link (left final : Complex) (cs middle behind rest : List Char) (combinator : Combinator)
      (parts : Compound) (separates : separator cs = .ok (some combinator, middle))
      (joined : compound nested middle = .ok (parts, behind))
      (further : Continues nested (.link left combinator parts) behind final rest) :
      Continues nested left cs final rest

variable {nested : Bool → List Char → Reading (SelectorList × List Char)}
  (steady : ∀ relative, Carries never (nested relative) (nested relative))

include steady

theorem compound_shorter (cs rest : List Char) (parts : Compound)
    (read : compound nested cs = .ok (parts, rest)) : rest.length ≤ cs.length :=
  (compound_carries steady).shorter cs rest parts read

theorem continues_of_continuation (steps : Nat) (left final : Complex) (cs rest : List Char)
    (enough : cs.length ≤ steps) (read : continuation nested steps left cs = .ok (final, rest)) :
    Continues nested left cs final rest := by
  induction steps generalizing left cs with
  | zero =>
      obtain rfl := List.eq_nil_of_length_eq_zero (Nat.le_zero.mp enough)
      obtain ⟨rfl, rfl⟩ := Prod.mk.inj (Except.ok.inj read)
      exact Continues.done left [] [] rfl
  | succ steps ih =>
      rw [continuation] at read
      obtain ⟨⟨found, middle⟩, separates, later⟩ := ok_of_bind read
      cases found with
      | none =>
          obtain ⟨rfl, rfl⟩ := Prod.mk.inj (Except.ok.inj later)
          exact Continues.done left cs middle separates
      | some combinator =>
          obtain ⟨⟨parts, behind⟩, joined, further⟩ := ok_of_bind later
          have fewer := compound_shorter steady middle behind parts joined
          have shorter := separator_shorter cs middle combinator separates
          refine Continues.link left final cs middle behind rest combinator parts separates joined ?_
          exact ih (.link left combinator parts) behind (by omega) further

theorem continuation_of_continues (steps : Nat) (left final : Complex) (cs rest : List Char)
    (enough : cs.length ≤ steps) (continues : Continues nested left cs final rest) :
    continuation nested steps left cs = .ok (final, rest) := by
  induction continues generalizing steps with
  | done left cs rest ends =>
      cases steps with
      | zero =>
          obtain rfl := List.eq_nil_of_length_eq_zero (Nat.le_zero.mp enough)
          obtain ⟨_, rfl⟩ := Prod.mk.inj (Except.ok.inj ends)
          rfl
      | succ steps =>
          rw [continuation, ends]
          rfl
  | link left final cs middle behind rest combinator parts separates joined _ ih =>
      have fewer := compound_shorter steady middle behind parts joined
      have shorter := separator_shorter cs middle combinator separates
      cases steps with
      | zero => omega
      | succ steps =>
          rw [continuation, separates]
          change (compound nested middle >>= fun r => continuation nested steps
            (.link left combinator r.1) r.2) = _
          rw [joined]
          exact ih steps (by omega)

end Continuation

section Entries

variable {nested : Bool → List Char → Reading (SelectorList × List Char)}

theorem GoesOn.at_list_end {inner : Bool} {rest rest' : List Char} (alike : GoesOn never rest rest')
    (ends : atListEnd inner rest) : atListEnd inner rest' := by
  cases rest with
  | nil =>
      cases rest' with
      | nil => exact ends
      | cons c tail => cases alike
  | cons c rest =>
      obtain ⟨tail, rfl⟩ := alike.cons
      exact ends

theorem entries_iff (relative inner : Bool) (steps : Nat) (cs rest : List Char)
    (list : SelectorList) :
    entries nested relative inner (steps + 1) cs = .ok (list, rest) ↔
      ∃ entry middle, complex nested relative (skipBlank cs) = .ok (entry, middle) ∧
        ((list = [entry] ∧ skipBlank middle = rest ∧ atListEnd inner rest) ∨
          ∃ behind others, list = entry :: others ∧ skipBlank middle = ',' :: behind ∧
            entries nested relative inner steps behind = .ok (others, rest)) := by
  rw [entries]
  constructor
  · intro read
    obtain ⟨⟨entry, middle⟩, first, later⟩ := ok_of_bind read
    refine ⟨entry, middle, first, ?_⟩
    simp only at later
    split at later
    · next behind skipped =>
        obtain ⟨⟨others, rest⟩, further, made⟩ := ok_of_bind later
        obtain ⟨rfl, rfl⟩ := Prod.mk.inj (Except.ok.inj made)
        exact Or.inr ⟨behind, others, rfl, skipped, further⟩
    · by_cases ends : atListEnd inner (skipBlank middle)
      · rw [if_pos ends] at later
        obtain ⟨rfl, rfl⟩ := Prod.mk.inj (Except.ok.inj later)
        exact Or.inl ⟨rfl, rfl, ends⟩
      · rw [if_neg ends] at later
        cases later
  · rintro ⟨entry, middle, first, last | more⟩
    · obtain ⟨rfl, rfl, ends⟩ := last
      rw [first]
      simp only [bind, Except.bind]
      split
      · next behind skipped =>
          rw [skipped] at ends
          cases inner <;> simp [atListEnd] at ends
      · exact if_pos ends
    · obtain ⟨behind, others, rfl, skipped, further⟩ := more
      rw [first]
      simp only [bind, Except.bind, skipped, further]

end Entries

section Lists

variable {inner deeper : Bool → List Char → Reading (SelectorList × List Char)}
  (nested : ∀ relative, Carries never (inner relative) (deeper relative))

include nested

theorem continues_carry (left final : Complex) (cs rest : List Char)
    (continues : Continues inner left cs final rest) :
    ∃ front, cs = front ++ rest ∧ ∀ rest', GoesOn isEnd rest rest' →
      Continues deeper left (front ++ rest') final rest' := by
  induction continues with
  | done left cs rest ends =>
      obtain ⟨front, split, carried⟩ := separator_carries cs none rest ends
      exact ⟨front, split, fun rest' alike => Continues.done _ _ _ (carried rest' alike)⟩
  | link left final cs middle behind rest combinator parts separates joined _ ih =>
      obtain ⟨front, split, carried⟩ := separator_carries cs _ middle separates
      obtain ⟨part, splitPart, carriedPart⟩ := compound_carries nested middle parts behind joined
      obtain ⟨back, splitBack, carriedBack⟩ := ih
      refine ⟨front ++ part ++ back, by rw [split, splitPart, splitBack]; simp, ?_⟩
      intro rest' alike
      have behindAlike : GoesOn isEnd behind (back ++ rest') := splitBack ▸ alike.append back
      have middleAlike : GoesOn isEnd middle (part ++ (back ++ rest')) :=
        splitPart ▸ behindAlike.append part
      rw [List.append_assoc, List.append_assoc]
      exact Continues.link _ _ _ _ _ _ _ _ (carried _ middleAlike)
        (carriedPart _ (behindAlike.mono stop_of_end))
        (carriedBack rest' alike)

variable (steadyInner : ∀ relative, Carries never (inner relative) (inner relative))
  (steadyDeeper : ∀ relative, Carries never (deeper relative) (deeper relative))

include steadyInner steadyDeeper

theorem continuation_carries (left : Complex) : Carries isEnd
    (fun cs => continuation inner cs.length left cs)
    (fun cs => continuation deeper cs.length left cs) := by
  intro cs final rest read
  have continues := continues_of_continuation steadyInner _ _ _ _ _ (Nat.le_refl _) read
  obtain ⟨front, split, carried⟩ := continues_carry nested left final cs rest continues
  exact ⟨front, split, fun rest' alike =>
    continuation_of_continues steadyDeeper _ _ _ _ _ (Nat.le_refl _) (carried rest' alike)⟩

theorem complex_carries (relative : Bool) :
    Carries isEnd (complex inner relative) (complex deeper relative) := by
  have compounds := (compound_carries nested).narrow stop_of_end
  exact (anchor_carries relative).bind_between
    (fun anchor => compounds.bind fun parts =>
      continuation_carries nested steadyInner steadyDeeper (.start anchor parts))
    fun _ _ read => nomatch read

theorem spaced_complex_carries (relative : Bool) :
    Carries isEnd (fun cs => complex inner relative (skipBlank cs))
      (fun cs => complex deeper relative (skipBlank cs)) :=
  (complex_carries nested steadyInner steadyDeeper relative).after_blank fun _ read => nomatch read

theorem entries_carry (relative enclosed : Bool) (steps : Nat) (cs rest : List Char) (list : SelectorList)
    (read : entries inner relative enclosed steps cs = .ok (list, rest)) :
    ∃ front, cs = front ++ rest ∧ ∀ rest' steps', GoesOn never rest rest' →
      (front ++ rest').length < steps' →
      entries deeper relative enclosed steps' (front ++ rest') = .ok (list, rest') := by
  induction steps generalizing cs list with
  | zero => cases read
  | succ steps ih =>
      obtain ⟨entry, middle, first, later⟩ := (entries_iff _ _ _ _ _ _).mp read
      obtain ⟨front, split, carried⟩ := spaced_complex_carries nested steadyInner steadyDeeper
        relative cs entry middle first
      obtain ⟨blanks, splitBlanks, blank⟩ := skip_blank_split middle
      rcases later with ⟨rfl, skipped, ended⟩ | ⟨behind, others, rfl, skipped, further⟩
      · rw [skipped] at splitBlanks
        refine ⟨front ++ blanks, by rw [split, splitBlanks, List.append_assoc], ?_⟩
        intro rest' steps' alike enough
        cases steps' with
        | zero => simp at enough
        | succ steps' =>
            have solid : skipBlank rest = rest := skipped ▸ List.dropWhile_idempotent _ _
            have middleAlike : GoesOn isEnd middle (blanks ++ rest') := by
              rw [splitBlanks]
              exact (alike.mono nofun).append blanks
            apply (entries_iff _ _ _ _ _ _).mpr
            refine ⟨entry, blanks ++ rest', ?_, Or.inl ⟨rfl, ?_, alike.at_list_end ended⟩⟩
            · rw [List.append_assoc]
              exact carried _ middleAlike
            · rw [skip_blank_append _ _ blank]
              exact skip_blank_alike rest rest' solid alike nofun
      · rw [skipped] at splitBlanks
        obtain ⟨back, splitBack, carriedBack⟩ := ih behind others further
        refine ⟨front ++ (blanks ++ ',' :: back), by rw [split, splitBlanks, splitBack]; simp, ?_⟩
        intro rest' steps' alike enough
        cases steps' with
        | zero => simp at enough
        | succ steps' =>
            have middleAlike : GoesOn isEnd middle (blanks ++ ',' :: (back ++ rest')) := by
              rw [splitBlanks]
              exact (GoesOn.head ',' behind (back ++ rest')).append blanks
            have fewer : (back ++ rest').length < steps' := by
              simp at enough ⊢
              omega
            refine (entries_iff _ _ _ _ _ _).mpr
              ⟨entry, blanks ++ ',' :: (back ++ rest'), ?_, Or.inr
                ⟨back ++ rest', others, rfl, ?_, carriedBack rest' steps' alike fewer⟩⟩
            · rw [List.append_assoc, List.append_assoc, List.cons_append]
              exact carried _ middleAlike
            · rw [skip_blank_append _ _ blank]
              rfl

end Lists

theorem list_at_carries_of_nested (depth depth' : Nat) (relative enclosed : Bool)
    (nested : ∀ relative, Carries never (listAt depth relative true) (listAt depth' relative true))
    (steady : ∀ relative, Carries never (listAt depth relative true) (listAt depth relative true))
    (steady' : ∀ relative, Carries never (listAt depth' relative true)
      (listAt depth' relative true)) :
    Carries never (listAt (depth + 1) relative enclosed) (listAt (depth' + 1) relative enclosed) := by
  intro cs list rest read
  obtain ⟨front, split, carried⟩ := entries_carry nested steady steady' relative enclosed _ cs rest
    list read
  exact ⟨front, split, fun rest' alike => carried rest' _ alike (Nat.lt_succ_self _)⟩

theorem list_at_steady (depth : Nat) (relative : Bool) :
    Carries never (listAt depth relative true) (listAt depth relative true) := by
  induction depth generalizing relative with
  | zero => exact Carries.fail fun _ _ read => nomatch read
  | succ depth ih => exact list_at_carries_of_nested depth depth relative true ih ih ih

theorem list_at_carries (depth depth' : Nat) (deeper : depth ≤ depth') (relative : Bool) :
    Carries never (listAt depth relative true) (listAt depth' relative true) := by
  induction depth generalizing depth' relative with
  | zero => exact Carries.fail fun _ _ read => nomatch read
  | succ depth ih =>
      cases depth' with
      | zero => cases deeper
      | succ depth' =>
          exact list_at_carries_of_nested depth depth' relative true
            (ih depth' (Nat.le_of_succ_le_succ deeper)) (list_at_steady depth)
            (list_at_steady depth')

end DomQuery.Selector
