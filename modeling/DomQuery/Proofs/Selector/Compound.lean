import DomQuery.Proofs.Selector.Reading

set_option autoImplicit false

namespace DomQuery.Selector

theorem stop_mark (c : Char) (ends : isStop c) :
    c ∉ ['#', '.', '[', ':'] ∧ c ≠ '(' ∧ c ≠ '*' := by
  rw [isStop, Bool.and_eq_true] at ends
  have outside : c ∉ ['\\', '#', '.', '[', ':', '(', '*'] := by simpa using ends.2
  refine ⟨fun found => outside ?_, fun same => outside ?_, fun same => outside ?_⟩
  · exact List.mem_cons_of_mem _ (List.mem_append_left ['(', '*'] found)
  · simp [same]
  · simp [same]

theorem opening_plain (c : Char) (cs : List Char) (other : c ≠ '*') :
    opening (c :: cs) =
      if isIdentChar c then (ident (c :: cs)).map fun r => ([.type (lowerAscii r.1)], r.2)
      else .ok ([], c :: cs) := by
  rw [opening]
  exact fun same => other same

theorem opening_carries : Carries isStop opening opening := by
  intro cs parts rest read
  cases cs with
  | nil =>
      obtain ⟨rfl, rfl⟩ := Prod.mk.inj (Except.ok.inj read)
      refine ⟨[], rfl, fun rest' alike => ?_⟩
      cases rest' with
      | nil => rfl
      | cons c tail =>
          have outside := (stop_outside c alike).1
          rw [List.nil_append, opening_plain c tail (stop_mark c alike).2.2, outside]
          rfl
  | cons c cs =>
      by_cases star : c = '*'
      · subst star
        obtain ⟨rfl, rfl⟩ := Prod.mk.inj (Except.ok.inj read)
        exact ⟨['*'], rfl, fun _ _ => rfl⟩
      · rw [opening_plain c cs star] at read
        by_cases inside : isIdentChar c
        · rw [if_pos inside] at read
          have typed := ident_carries.map fun word => [Simple.type (lowerAscii word)]
          obtain ⟨front, split, carried⟩ := typed (c :: cs) parts rest read
          refine ⟨front, split, fun rest' alike => ?_⟩
          obtain ⟨tail, begun⟩ := (split ▸ alike.append front : GoesOn isStop (c :: cs) _).cons
          rw [← carried rest' alike, begun, opening_plain c tail star, if_pos inside]
        · rw [if_neg inside] at read
          obtain ⟨rfl, rfl⟩ := Prod.mk.inj (Except.ok.inj read)
          refine ⟨[], rfl, fun rest' alike => ?_⟩
          obtain ⟨tail, rfl⟩ := alike.cons
          rw [List.nil_append, opening_plain c tail star, if_neg inside]

theorem anchor_carries (relative : Bool) : Carries never (anchor relative) (anchor relative) := by
  intro cs found rest read
  cases cs with
  | nil =>
      obtain ⟨rfl, rfl⟩ := Prod.mk.inj (Except.ok.inj read)
      refine ⟨[], rfl, fun rest' alike => ?_⟩
      cases rest' with
      | nil => rfl
      | cons c tail => cases alike
  | cons c cs =>
      cases mark : Combinator.ofMark? c with
      | none =>
          simp only [anchor, mark] at read
          obtain ⟨rfl, rfl⟩ := Prod.mk.inj (Except.ok.inj read)
          refine ⟨[], rfl, fun rest' alike => ?_⟩
          obtain ⟨tail, rfl⟩ := alike.cons
          simp only [List.nil_append, anchor, mark]
      | some combinator =>
          cases relative with
          | false => simp [anchor, mark] at read
          | true =>
              simp only [anchor, mark, if_true] at read
              obtain ⟨rfl, rfl⟩ := Prod.mk.inj (Except.ok.inj read)
              obtain ⟨blanks, split, blank⟩ := skip_blank_split cs
              refine ⟨c :: blanks, by rw [List.cons_append, ← split], fun rest' alike => ?_⟩
              have stays := skip_blank_alike _ rest' (List.dropWhile_idempotent _ _) alike nofun
              simp only [List.cons_append, anchor, mark, if_true,
                skip_blank_append blanks rest' blank, stays]

section Nested

variable {inner deeper : Bool → List Char → Reading (SelectorList × List Char)}
  (nested : ∀ relative, Carries never (inner relative) (deeper relative))

include nested

theorem pseudo_argument_carries (name : String) :
    Carries never (pseudoArgument inner name) (pseudoArgument deeper name) := by
  unfold pseudoArgument
  cases nthPseudo? name with
  | some make => exact (nth_argument_carries never).map make
  | none =>
      cases listPseudo? name with
      | some list => exact (nested list.1).map list.2
      | none =>
          by_cases contained : name = "contains"
          · simp only [contained, if_true]
            have text := contains_argument_carries.after_blank fun r read => nomatch read
            exact text.map fun text => PseudoClass.contains (.ofList text)
          · simp only [contained, if_false]
            exact Carries.fail fun _ _ read => nomatch read

theorem argument_closes (name : String) : Carries isStop
    (fun cs => pseudoArgument inner name cs >>= fun r => expect ')' r.2 >>= fun rest => .ok (r.1, rest))
    (fun cs => pseudoArgument deeper name cs >>= fun r =>
      expect ')' r.2 >>= fun rest => .ok (r.1, rest)) := by
  have close (cls : PseudoClass) : Carries isStop
      (fun cs => expect ')' cs >>= fun rest => .ok (cls, rest))
      (fun cs => expect ')' cs >>= fun rest => .ok (cls, rest)) := by
    intro cs found rest read
    obtain ⟨behind, expected, made⟩ := ok_of_bind read
    obtain ⟨rfl, rfl⟩ := Prod.mk.inj (Except.ok.inj made)
    exact ⟨[')'], expect_ok ')' cs behind expected, fun _ _ => rfl⟩
  exact (pseudo_argument_carries nested name).bind_between close fun _ _ read => nomatch read

omit nested in
theorem named_pseudo_bare (name : String) (c : Char) (cs : List Char) (bare : c ≠ '(') :
    namedPseudo inner name (c :: cs) = match plainPseudo? name with
      | some cls => .ok (cls, c :: cs)
      | none => .error (.unmatchedPseudoClass name) := by
  unfold namedPseudo
  split
  · next same => exact absurd (List.cons.inj same).1 bare
  · rfl

theorem named_pseudo_carries (name : String) :
    Carries isStop (namedPseudo inner name) (namedPseudo deeper name) := by
  intro cs cls rest read
  cases cs with
  | nil =>
      cases plain : plainPseudo? name with
      | none => simp [namedPseudo, plain] at read
      | some found =>
          simp only [namedPseudo, plain] at read
          obtain ⟨rfl, rfl⟩ := Prod.mk.inj (Except.ok.inj read)
          refine ⟨[], rfl, fun rest' alike => ?_⟩
          cases rest' with
          | nil => simp only [List.nil_append, namedPseudo, plain]
          | cons c tail =>
              rw [List.nil_append, named_pseudo_bare name c tail (stop_mark c alike).2.1, plain]
  | cons c cs =>
      by_cases opens : c = '('
      · subst opens
        obtain ⟨front, split, carried⟩ := argument_closes nested name cs cls rest read
        exact ⟨'(' :: front, by rw [split, List.cons_append], carried⟩
      · rw [named_pseudo_bare name c cs opens] at read
        cases plain : plainPseudo? name with
        | none => simp [plain] at read
        | some found =>
            rw [plain] at read
            obtain ⟨rfl, rfl⟩ := Prod.mk.inj (Except.ok.inj read)
            refine ⟨[], rfl, fun rest' alike => ?_⟩
            obtain ⟨tail, rfl⟩ := alike.cons
            rw [List.nil_append, named_pseudo_bare name c tail opens, plain]

theorem pseudo_carries : Carries isStop (pseudo inner) (pseudo deeper) :=
  ident_carries.bind fun word => named_pseudo_carries nested (lowerAscii word)

omit nested in
theorem condition_none (c : Char) (cs : List Char) :
    condition? inner (c :: cs) = none ↔ c ∉ ['#', '.', '[', ':'] := by
  unfold condition?
  split
  all_goals simp_all

theorem condition_carries (c : Char) (cs rest : List Char) (part : Simple)
    (read : condition? inner (c :: cs) = some (.ok (part, rest))) :
    ∃ front, cs = front ++ rest ∧ ∀ rest', GoesOn isStop rest rest' →
      condition? deeper (c :: (front ++ rest')) = some (.ok (part, rest')) := by
  have mark : c ∈ ['#', '.', '[', ':'] := by
    by_contra other
    rw [(condition_none c cs).mpr other] at read
    cases read
  simp only [List.mem_cons, List.not_mem_nil, or_false] at mark
  rcases mark with rfl | rfl | rfl | rfl
  · obtain ⟨front, split, carried⟩ := ident_carries.map (fun word => Simple.id (.ofList word)) cs
      part rest (Option.some.inj read)
    exact ⟨front, split, fun rest' alike => congrArg some (carried rest' alike)⟩
  · obtain ⟨front, split, carried⟩ := ident_carries.map
      (fun word => Simple.className (.ofList word)) cs part rest (Option.some.inj read)
    exact ⟨front, split, fun rest' alike => congrArg some (carried rest' alike)⟩
  · obtain ⟨front, split, carried⟩ := attr_test_carries.map Simple.attribute cs part rest
      (Option.some.inj read)
    exact ⟨front, split, fun rest' alike => congrArg some (carried rest' alike)⟩
  · obtain ⟨front, split, carried⟩ := (pseudo_carries nested).map Simple.pseudo cs part rest
      (Option.some.inj read)
    exact ⟨front, split, fun rest' alike => congrArg some (carried rest' alike)⟩

omit nested in
theorem condition_absent (cs cs' : List Char) (absent : condition? inner cs = none)
    (alike : GoesOn isStop cs cs') : condition? deeper cs' = none := by
  cases cs with
  | nil =>
      cases cs' with
      | nil => rfl
      | cons c tail => exact (condition_none c tail).mpr (stop_mark c alike).1
  | cons c cs =>
      obtain ⟨tail, rfl⟩ := alike.cons
      exact (condition_none c tail).mpr ((condition_none c cs).mp absent)

omit nested in
theorem conditions_stay (steps : Nat) (cs : List Char) (absent : condition? inner cs = none) :
    conditions inner steps cs = .ok ([], cs) := by
  cases steps with
  | zero => rfl
  | succ steps => rw [conditions, absent]

omit nested in
theorem conditions_step (steps : Nat) (cs middle rest : List Char) (part : Simple)
    (parts : Compound) (first : condition? inner cs = some (.ok (part, middle)))
    (others : conditions inner steps middle = .ok (parts, rest)) :
    conditions inner (steps + 1) cs = .ok (part :: parts, rest) := by
  rw [conditions, first]
  change (conditions inner steps middle >>= fun r => .ok (part :: r.1, r.2)) = _
  rw [others]
  rfl

-- The number of steps is immaterial as long as it is no less than the number of characters.
theorem conditions_carry (steps : Nat) (cs rest : List Char) (parts : Compound)
    (enough : cs.length ≤ steps) (read : conditions inner steps cs = .ok (parts, rest)) :
    ∃ front, cs = front ++ rest ∧ ∀ rest' steps', GoesOn isStop rest rest' →
      (front ++ rest').length ≤ steps' →
      conditions deeper steps' (front ++ rest') = .ok (parts, rest') := by
  induction steps generalizing cs parts with
  | zero =>
      obtain rfl := List.eq_nil_of_length_eq_zero (Nat.le_zero.mp enough)
      obtain ⟨rfl, rfl⟩ := Prod.mk.inj (Except.ok.inj read)
      have absent : condition? inner [] = none := rfl
      exact ⟨[], rfl, fun rest' steps' alike _ =>
        conditions_stay steps' rest' (condition_absent [] rest' absent alike)⟩
  | succ steps ih =>
      cases found : condition? inner cs with
      | none =>
          rw [conditions_stay _ _ found] at read
          obtain ⟨rfl, rfl⟩ := Prod.mk.inj (Except.ok.inj read)
          exact ⟨[], rfl, fun rest' steps' alike _ =>
            conditions_stay steps' rest' (condition_absent cs rest' found alike)⟩
      | some first =>
          rw [conditions, found] at read
          obtain ⟨⟨part, middle⟩, readPart, later⟩ := ok_of_bind read
          obtain ⟨⟨others, behind⟩, readOthers, made⟩ := ok_of_bind later
          obtain ⟨rfl, rfl⟩ := Prod.mk.inj (Except.ok.inj made)
          cases cs with
          | nil => cases found
          | cons c cs =>
              rw [readPart] at found
              obtain ⟨front, split, carried⟩ := condition_carries nested c cs middle part found
              have shorter : middle.length ≤ steps := by
                rw [split] at enough
                simp at enough
                omega
              obtain ⟨back, splitRest, carriedRest⟩ := ih middle others shorter readOthers
              refine ⟨c :: front ++ back, by rw [split, splitRest]; simp, ?_⟩
              intro rest' steps' alike enough'
              cases steps' with
              | zero => simp at enough'
              | succ steps' =>
                  have further : GoesOn isStop middle (back ++ rest') := splitRest ▸ alike.append back
                  have fewer : (back ++ rest').length ≤ steps' := by
                    simp at enough' ⊢
                    omega
                  rw [List.append_assoc]
                  exact conditions_step steps' _ _ _ part others (carried _ further)
                    (carriedRest rest' steps' alike fewer)

theorem all_conditions_carry : Carries isStop (fun cs => conditions inner cs.length cs)
    (fun cs => conditions deeper cs.length cs) := by
  intro cs parts rest read
  obtain ⟨front, split, carried⟩ := conditions_carry nested cs.length cs rest parts
    (Nat.le_refl _) read
  exact ⟨front, split, fun rest' alike => carried rest' _ alike (Nat.le_refl _)⟩

theorem compound_carries : Carries isStop (compound inner) (compound deeper) :=
  opening_carries.bind fun first => (all_conditions_carry nested).bind fun others =>
    Carries.or_stuck (first ++ others = []) (first ++ others)

end Nested

end DomQuery.Selector
