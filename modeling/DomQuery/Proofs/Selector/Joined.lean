import DomQuery.Proofs.Selector.Entries

set_option autoImplicit false

namespace DomQuery.Selector

-- The second selector behind the first; the combinator takes the place of its anchor.
def Complex.attach (left : Complex) (combinator : Combinator) : Complex → Complex
  | start _ compound => link left combinator compound
  | link inner joint compound => link (left.attach combinator inner) joint compound

theorem GoesOn.extend {stop : Char → Bool} (rest suffix : List Char) (c : Char) (ends : stop c) :
    GoesOn stop rest (rest ++ c :: suffix) := by
  cases rest with
  | nil => exact ends
  | cons d rest => rfl

theorem compound_needs {nested : Bool → List Char → Reading (SelectorList × List Char)}
    (c : Char) (tail rest : List Char) (parts : Compound) (stops : isStop c) :
    compound nested (c :: tail) ≠ .ok (parts, rest) := by
  intro read
  have opened : opening (c :: tail) = .ok ([], c :: tail) := by
    rw [opening_plain c tail (stop_mark c stops).2.2, (stop_outside c stops).1]
    rfl
  have absent : condition? nested (c :: tail) = none :=
    (condition_none c tail).mpr (stop_mark c stops).1
  have closed := conditions_stay (c :: tail).length (c :: tail) absent
  rw [compound, opened] at read
  obtain ⟨⟨_, _⟩, first, later⟩ := ok_of_bind read
  obtain ⟨rfl, rfl⟩ := Prod.mk.inj (Except.ok.inj first)
  obtain ⟨⟨_, _⟩, others, made⟩ := ok_of_bind later
  rw [closed] at others
  obtain ⟨rfl, rfl⟩ := Prod.mk.inj (Except.ok.inj others)
  cases made

theorem entries_nonempty {nested : Bool → List Char → Reading (SelectorList × List Char)}
    (relative inner : Bool) (steps : Nat) (cs rest : List Char) (list : SelectorList)
    (read : entries nested relative inner steps cs = .ok (list, rest)) : list ≠ [] := by
  cases steps with
  | zero => cases read
  | succ steps =>
      obtain ⟨entry, middle, _, last | ⟨_, others, more, _⟩⟩ := (entries_iff _ _ _ _ _ _).mp read
      · rw [last.1]
        exact List.cons_ne_nil _ _
      · rw [more]
        exact List.cons_ne_nil _ _

section Continues

variable {nested : Bool → List Char → Reading (SelectorList × List Char)}

theorem Continues.rest_solid {left final : Complex} {cs rest : List Char}
    (continues : Continues nested left cs final rest) : skipBlank rest = rest := by
  induction continues with
  | done left cs rest ends =>
      cases separates_of_separator cs rest none ends with
      | text _ _ => rfl
      | entry blanks tail c _ mark => exact skip_blank_cons c tail (not_blank_of_end c mark)
  | link _ _ _ _ _ _ _ _ _ _ _ ih => exact ih

theorem Continues.anchor_eq {left final : Complex} {cs rest : List Char}
    (continues : Continues nested left cs final rest) : final.anchor = left.anchor := by
  induction continues with
  | done left cs rest ends => rfl
  | link _ _ _ _ _ _ _ _ _ _ _ ih => exact ih

theorem Continues.attach {right final : Complex} {cs rest : List Char}
    (continues : Continues nested right cs final rest) (left : Complex) (combinator : Combinator) :
    Continues nested (left.attach combinator right) cs (left.attach combinator final) rest := by
  induction continues with
  | done right cs rest ends => exact Continues.done _ cs rest ends
  | link right final cs middle behind rest joint parts separates joined _ ih =>
      exact Continues.link _ _ cs middle behind rest joint parts separates joined ih

end Continues

section Seam

variable {inner deeper : Bool → List Char → Reading (SelectorList × List Char)}
  (nested : ∀ relative, Carries never (inner relative) (deeper relative))

include nested

-- Where the first text ends, the blank makes what follows in the second a descendant.
theorem Continues.seam {left final whole : Complex} {cs second behind : List Char} {c : Char}
    {tail : List Char} {parts : Compound} (continues : Continues inner left cs final [])
    (begun : skipBlank second = c :: tail) (inside : ¬ isEnd c)
    (unmarked : Combinator.ofMark? c = none)
    (joined : compound deeper (c :: tail) = .ok (parts, behind))
    (further : Continues deeper (.link final .descendant parts) behind whole []) :
    Continues deeper left (cs ++ ' ' :: second) whole [] := by
  generalize ended : ([] : List Char) = rest at continues
  induction continues with
  | done left cs rest ends =>
      obtain ⟨blanks, split, blank⟩ := skip_blank_split second
      rw [begun] at split
      cases separates_of_separator cs rest none ends with
      | entry _ _ _ _ _ => cases ended
      | text _ before =>
          have gap : ∀ b ∈ cs ++ ' ' :: blanks, Text.isBlank b := by
            intro b member
            rcases List.mem_append.mp member with early | late
            · exact before b early
            · rcases List.mem_cons.mp late with here | later
              · rw [here]
                rfl
              · exact blank b later
          have spaced := Separates.blank (cs ++ ' ' :: blanks) tail c (by simp) gap
            (skip_blank_head c second tail begun) inside unmarked
          rw [List.append_assoc, List.cons_append, ← split] at spaced
          exact Continues.link _ _ _ _ _ _ _ _ (separator_of_separates _ _ _ spaced) joined further
  | link left final cs middle behind' rest combinator first separates compounds _ ih =>
      obtain ⟨front, splitFront, carried⟩ := separator_carries cs _ middle separates
      obtain ⟨part, splitPart, carriedPart⟩ := compound_carries nested middle first behind' compounds
      have middleAlike : GoesOn isEnd middle (middle ++ ' ' :: second) := by
        cases middle with
        | nil => cases compounds
        | cons d middle => rfl
      rw [splitFront, List.append_assoc]
      refine Continues.link _ _ _ _ _ _ _ _ (carried _ middleAlike) ?_ (ih further ended)
      rw [splitPart, List.append_assoc]
      exact carriedPart _ (GoesOn.extend behind' second ' ' (by decide))

end Seam

theorem parse_chars_iff (relative : Bool) (cs : List Char) (list : SelectorList) :
    parseChars relative cs = .ok list ↔ ¬ cs.all Text.isBlank ∧
      ∃ rest, entries (fun relative cs' => listAt cs.length relative true cs') relative false
        (cs.length + 1) cs = .ok (list, rest) := by
  rw [parseChars]
  by_cases blank : cs.all Text.isBlank
  · rw [if_pos blank]
    exact iff_of_false nofun fun both => both.1 blank
  · rw [if_neg blank, listAt]
    cases read : entries (fun relative cs' => listAt cs.length relative true cs') relative false
        (cs.length + 1) cs with
    | error reject => exact iff_of_false nofun fun ⟨_, _, found⟩ => nomatch found
    | ok result =>
        obtain ⟨found, rest⟩ := result
        constructor
        · intro same
          exact ⟨blank, rest, by rw [← Except.ok.inj same]⟩
        · rintro ⟨_, rest', same⟩
          obtain ⟨rfl, rfl⟩ := Prod.mk.inj (Except.ok.inj same)
          rfl

theorem text_of_list_end (cs : List Char) (ends : atListEnd false cs) : cs = [] := by
  cases cs with
  | nil => rfl
  | cons c cs => cases ends

theorem parse_single_iff (relative : Bool) (cs : List Char) (entry : Complex) :
    parseChars relative cs = .ok [entry] ↔
      ∃ lead begun parts behind, anchor relative (skipBlank cs) = .ok (lead, begun) ∧
        compound (fun relative cs' => listAt cs.length relative true cs') begun = .ok (parts, behind) ∧
        Continues (fun relative cs' => listAt cs.length relative true cs') (.start lead parts) behind
          entry [] := by
  have steady := list_at_steady cs.length
  rw [parse_chars_iff]
  constructor
  · rintro ⟨_, rest, read⟩
    obtain ⟨entry', middle, whole, last | ⟨_, others, made, _, more⟩⟩ :=
      (entries_iff _ _ _ _ _ _).mp read
    · obtain ⟨same, skipped, ends⟩ := last
      obtain ⟨rfl, _⟩ := List.cons.inj same
      obtain ⟨⟨lead, begun⟩, anchored, later⟩ := ok_of_bind whole
      obtain ⟨⟨parts, behind⟩, first, further⟩ := ok_of_bind later
      have continues := continues_of_continuation steady _ _ _ _ _ (Nat.le_refl _) further
      refine ⟨lead, begun, parts, behind, anchored, first, ?_⟩
      rw [continues.rest_solid] at skipped
      rw [text_of_list_end rest ends] at skipped
      rwa [skipped] at continues
    · obtain ⟨_, rfl⟩ := List.cons.inj made
      exact absurd rfl (entries_nonempty _ _ _ _ _ _ more)
  · rintro ⟨lead, begun, parts, behind, anchored, first, continues⟩
    refine ⟨fun blank => ?_, [], (entries_iff _ _ _ _ _ _).mpr ⟨entry, [], ?_, ?_⟩⟩
    · have nothing : skipBlank cs = [] :=
        List.dropWhile_eq_nil_iff.mpr (List.all_eq_true.mp blank)
      rw [nothing] at anchored
      obtain ⟨_, rfl⟩ := Prod.mk.inj (Except.ok.inj anchored)
      cases first
    · rw [complex, anchored]
      change (compound _ begun >>= fun r =>
        continuation _ r.2.length (.start lead r.1) r.2) = _
      rw [first]
      exact continuation_of_continues steady _ _ _ _ _ (Nat.le_refl _) continues
    · exact Or.inl ⟨rfl, rfl, rfl⟩

theorem anchor_free (cs rest : List Char) (read : anchor true cs = .ok (none, rest)) :
    rest = cs ∧ ∀ c tail, cs = c :: tail → Combinator.ofMark? c = none := by
  cases cs with
  | nil =>
      obtain ⟨_, rfl⟩ := Prod.mk.inj (Except.ok.inj read)
      exact ⟨rfl, fun _ _ same => nomatch same⟩
  | cons c tail =>
      cases mark : Combinator.ofMark? c with
      | some combinator =>
          simp only [anchor, mark, if_true] at read
          cases (Prod.mk.inj (Except.ok.inj read)).1
      | none =>
          simp only [anchor, mark] at read
          refine ⟨(Prod.mk.inj (Except.ok.inj read)).2.symm, fun d _ same => ?_⟩
          rw [← (List.cons.inj same).1]
          exact mark

theorem skip_blank_before (cs suffix : List Char) (some : skipBlank cs ≠ []) :
    skipBlank (cs ++ suffix) = skipBlank cs ++ suffix := by
  obtain ⟨blanks, split, blank⟩ := skip_blank_split cs
  cases skipped : skipBlank cs with
  | nil => exact absurd skipped some
  | cons c tail =>
      rw [skipped] at split
      rw [split, List.append_assoc, skip_blank_append _ _ blank, List.cons_append]
      exact skip_blank_cons c _ (skip_blank_head c cs tail skipped)

theorem parse_joined (first second : List Char) (a b : Complex)
    (readFirst : parseChars true first = .ok [a]) (readSecond : parseChars true second = .ok [b])
    (free : b.anchor = none) :
    parseChars true (first ++ ' ' :: second) = .ok [a.attach .descendant b] := by
  obtain ⟨lead, begun, parts, behind, anchored, compoundFirst, continues⟩ :=
    (parse_single_iff true first a).mp readFirst
  obtain ⟨lead', begun', parts', behind', anchored', compoundSecond, continues'⟩ :=
    (parse_single_iff true second b).mp readSecond
  have deeperFirst := list_at_carries first.length (first ++ ' ' :: second).length (by simp)
  have deeperSecond := list_at_carries second.length (first ++ ' ' :: second).length
    (by simp; omega)
  have bare : lead' = none := continues'.anchor_eq.symm.trans free
  subst bare
  obtain ⟨rfl, unmarked⟩ := anchor_free _ _ anchored'
  refine (parse_single_iff true _ _).mpr
    ⟨lead, begun ++ ' ' :: second, parts, behind ++ ' ' :: second, ?_, ?_, ?_⟩
  · obtain ⟨front, split, carried⟩ := anchor_carries true _ lead begun anchored
    have some : begun ≠ [] := by
      rintro rfl
      cases compoundFirst
    rw [skip_blank_before first _ (by simp [split, some]), split, List.append_assoc]
    refine carried _ ?_
    cases begun with
    | nil => exact absurd rfl some
    | cons c begun => rfl
  · obtain ⟨front, split, carried⟩ := compound_carries deeperFirst _ parts behind compoundFirst
    rw [split, List.append_assoc]
    exact carried _ (GoesOn.extend behind second ' ' (by decide))
  · have joined := (compound_carries deeperSecond).same _ behind' parts' compoundSecond
    obtain ⟨front, split, carried⟩ := continues_carry deeperSecond _ _ _ _ continues'
    have further := (carried [] trivial).attach a .descendant
    rw [← split] at further
    cases skipped : skipBlank second with
    | nil =>
        rw [skipped] at compoundSecond
        cases compoundSecond
    | cons c tail =>
        rw [skipped] at joined compoundSecond
        exact continues.seam deeperFirst skipped
          (fun ends => compound_needs c tail behind' parts' (stop_of_end c ends) compoundSecond)
          (unmarked c tail skipped) joined further

end DomQuery.Selector
