import DomQuery.Proofs.Selector.Written

set_option autoImplicit false

namespace DomQuery.Selector

-- What may stand behind an entry: the end of its list, or a comma and the other entries.
def Follows (nested : Bool → List Char → Reading (SelectorList × List Char))
    (relative enclosed : Bool) (cs : List Char) (others : SelectorList) (rest : List Char) : Prop :=
  (others = [] ∧ cs = rest ∧ atListEnd enclosed rest) ∨
    ∃ behind, cs = ',' :: behind ∧ ∀ steps, behind.length < steps →
      entries nested relative enclosed steps behind = .ok (others, rest)

section Seam

variable {inner deeper : Bool → List Char → Reading (SelectorList × List Char)}
  (nested : ∀ relative, Carries never (inner relative) (deeper relative))
  (steadyInner : ∀ relative, Carries never (inner relative) (inner relative))
  (steadyDeeper : ∀ relative, Carries never (deeper relative) (deeper relative))

include nested steadyInner steadyDeeper

-- Where the text ends the last entry ends as well, so the next one can follow there.
theorem entries_seam (relative enclosed : Bool) (steps : Nat) (cs tail rest : List Char) (c : Char)
    (list others : SelectorList) (ends : isEnd c)
    (read : entries inner relative false steps cs = .ok (list, []))
    (follows : Follows deeper relative enclosed (c :: tail) others rest) (steps' : Nat)
    (enough : (cs ++ c :: tail).length < steps') :
    entries deeper relative enclosed steps' (cs ++ c :: tail) = .ok (list ++ others, rest) := by
  induction steps generalizing cs list steps' with
  | zero => cases read
  | succ steps ih =>
      obtain ⟨entry, middle, first, later⟩ := (entries_iff _ _ _ _ _ _).mp read
      obtain ⟨front, split, carried⟩ := spaced_complex_carries nested steadyInner steadyDeeper
        relative cs entry middle first
      obtain ⟨blanks, splitBlanks, blank⟩ := skip_blank_split middle
      have seam := carried (middle ++ c :: tail) (GoesOn.extend middle tail c ends)
      rw [← List.append_assoc, ← split] at seam
      cases steps' with
      | zero => cases enough
      | succ steps' =>
          apply (entries_iff _ _ _ _ _ _).mpr
          refine ⟨entry, middle ++ c :: tail, seam, ?_⟩
          rcases later with ⟨rfl, skipped, _⟩ | ⟨behind, more, rfl, skipped, further⟩
          · rw [skipped, List.append_nil] at splitBlanks
            have stays : skipBlank (middle ++ c :: tail) = c :: tail := by
              rw [splitBlanks, skip_blank_append _ _ blank]
              exact skip_blank_cons c tail (not_blank_of_end c ends)
            rw [stays]
            rcases follows with ⟨rfl, rfl, ended⟩ | ⟨behind, begun, rest⟩
            · exact Or.inl ⟨rfl, rfl, ended⟩
            · have fewer : behind.length < steps' := by
                have longer := congrArg List.length begun
                simp at enough longer
                omega
              exact Or.inr ⟨behind, others, rfl, begun, rest steps' fewer⟩
          · have stays : skipBlank (middle ++ c :: tail) = ',' :: (behind ++ c :: tail) := by
              rw [skip_blank_before middle _ (by simp [skipped]), skipped, List.cons_append]
            have fewer : (behind ++ c :: tail).length < steps' := by
              rw [skipped] at splitBlanks
              rw [split, splitBlanks] at enough
              simp at enough ⊢
              omega
            exact Or.inr ⟨behind ++ c :: tail, more ++ others, rfl, stays, ih behind more further
              steps' fewer⟩

end Seam

theorem entries_end {nested : Bool → List Char → Reading (SelectorList × List Char)}
    (relative enclosed : Bool) (steps : Nat) (cs rest : List Char) (list : SelectorList)
    (read : entries nested relative enclosed steps cs = .ok (list, rest)) :
    atListEnd enclosed rest := by
  induction steps generalizing cs list with
  | zero => cases read
  | succ steps ih =>
      obtain ⟨_, _, _, ⟨_, _, ended⟩ | ⟨behind, others, _, _, further⟩⟩ :=
        (entries_iff _ _ _ _ _ _).mp read
      · exact ended
      · exact ih behind others further

theorem whole_list (relative : Bool) (cs : List Char) (list : SelectorList)
    (read : parseChars relative cs = .ok list) :
    ¬ cs.all Text.isBlank ∧
      entries (fun relative cs' => listAt cs.length relative true cs') relative false
        (cs.length + 1) cs = .ok (list, []) := by
  obtain ⟨solid, rest, entered⟩ := (parse_chars_iff relative cs list).mp read
  have ended := entries_end _ _ _ _ _ _ entered
  rw [text_of_list_end rest ended] at entered
  exact ⟨solid, entered⟩

theorem list_deeper (relative : Bool) (cs : List Char) (list : SelectorList) (depth steps : Nat)
    (read : parseChars relative cs = .ok list) (deeper : cs.length ≤ depth)
    (enough : cs.length < steps) :
    entries (fun relative cs' => listAt depth relative true cs') relative false steps cs =
      .ok (list, []) := by
  obtain ⟨front, split, carried⟩ := entries_carry (list_at_carries cs.length depth deeper)
    (list_at_steady cs.length) (list_at_steady depth) relative false _ cs [] list
    (whole_list relative cs list read).2
  rw [split] at enough ⊢
  exact carried [] steps trivial enough

theorem lists_joined (relative : Bool) (first second : List Char) (as bs : SelectorList)
    (readFirst : parseChars relative first = .ok as)
    (readSecond : parseChars relative second = .ok bs) :
    parseChars relative (first ++ ',' :: second) = .ok (as ++ bs) := by
  obtain ⟨solid, entered⟩ := whole_list relative first as readFirst
  apply (parse_chars_iff _ _ _).mpr
  constructor
  · intro blank
    rw [List.all_append, Bool.and_eq_true] at blank
    exact solid blank.1
  · refine ⟨[], entries_seam (list_at_carries first.length _ ?_) (list_at_steady _)
      (list_at_steady _) relative false _ first second [] ',' as bs rfl entered ?_ _
      (Nat.lt_succ_self _)⟩
    · simp
    · refine Or.inr ⟨second, rfl, fun steps enough => ?_⟩
      exact list_deeper relative second bs _ steps readSecond (by simp; omega) enough

theorem parse_lists_joined (relative : Bool) (s t : String) (as bs : SelectorList)
    (readFirst : parseChars relative s.toList = .ok as)
    (readSecond : parseChars relative t.toList = .ok bs) :
    parseChars relative (s ++ "," ++ t).toList = .ok (as ++ bs) := by
  simpa using lists_joined relative s.toList t.toList as bs readFirst readSecond

theorem list_enclosed (relative : Bool) (cs rest : List Char) (list : SelectorList) (depth : Nat)
    (read : parseChars relative cs = .ok list) (deeper : cs.length < depth) :
    listAt depth relative true (cs ++ ')' :: rest) = .ok (list, ')' :: rest) := by
  obtain ⟨_, entered⟩ := whole_list relative cs list read
  cases depth with
  | zero => cases deeper
  | succ depth =>
      have seam := entries_seam (list_at_carries cs.length depth (Nat.le_of_lt_succ deeper))
        (list_at_steady _) (list_at_steady _) relative true _ cs rest (')' :: rest) ')' list [] rfl
        entered (Or.inl ⟨rfl, rfl, rfl⟩) _ (Nat.lt_succ_self _)
      rwa [List.append_nil] at seam

theorem condition_alone {nested : Bool → List Char → Reading (SelectorList × List Char)}
    (c : Char) (cs : List Char) (part : Simple) (opened : opening (c :: cs) = .ok ([], c :: cs))
    (read : condition? nested (c :: cs) = some (.ok (part, []))) :
    compound nested (c :: cs) = .ok ([part], []) := by
  have alone := conditions_step cs.length _ [] [] _ [] read (conditions_stay _ [] rfl)
  simp only [compound, opened, bind, Except.bind]
  rw [List.length_cons, alone]
  rfl

theorem list_alone {nested : Bool → List Char → Reading (SelectorList × List Char)}
    (relative : Bool) (make : SelectorList → PseudoClass) (text : List Char) (list : SelectorList)
    (other : nthPseudo? (make list).name = none)
    (named : listPseudo? (make list).name = some (relative, make))
    (read : nested relative (text ++ [')']) = .ok (list, [')'])) :
    compound nested (':' :: ((make list).name.toList ++ '(' :: (text ++ [')']))) =
      .ok ([.pseudo (make list)], []) := by
  obtain ⟨plain, low, nonempty⟩ := name_plain_small_nonempty (make list)
  have argument := named_list (make list).name relative make text [] list other named read
  have enclosed := pseudo_named (make list).name (make list) ('(' :: (text ++ [')'])) [] plain
    nonempty low (rfl : isBreak '(' = true) argument
  apply condition_alone ':' _ _ rfl
  simp only [condition?, enclosed, Except.map]

theorem list_as_condition (relative : Bool) (make : SelectorList → PseudoClass) (text : List Char)
    (list : SelectorList) (other : nthPseudo? (make list).name = none)
    (named : listPseudo? (make list).name = some (relative, make))
    (read : parseChars relative text = .ok list) :
    parseChars false (':' :: ((make list).name.toList ++ '(' :: (text ++ [')']))) =
      .ok [.start none [.pseudo (make list)]] := by
  apply (parse_single_iff false _ _).mpr
  refine ⟨none, _, _, [], rfl, list_alone relative make text list other named ?_, .done _ _ _ rfl⟩
  apply list_enclosed relative text [] list _ read
  simp
  omega

theorem parse_enclosed (relative : Bool) (make : SelectorList → PseudoClass) (text : String)
    (list : SelectorList) (other : nthPseudo? (make list).name = none)
    (named : listPseudo? (make list).name = some (relative, make))
    (read : parseChars relative text.toList = .ok list) :
    SelectorList.parse (":" ++ (make list).name ++ "(" ++ text ++ ")") =
      .ok [.start none [.pseudo (make list)]] := by
  simpa [SelectorList.parse] using
    list_as_condition relative make text.toList list other named read

theorem attach_anchor (left : Complex) (combinator : Combinator) :
    (right : Complex) → (left.attach combinator right).anchor = left.anchor
  | .start _ _ => rfl
  | .link inner _ _ => attach_anchor left combinator inner

theorem attach_compounds (left : Complex) (combinator : Combinator) : (right : Complex) →
    (left.attach combinator right).compounds = left.compounds ++ right.compounds
  | .start _ _ => rfl
  | .link inner _ _ => by
      simp only [Complex.attach, Complex.compounds, attach_compounds left combinator inner,
        List.append_assoc]

theorem attach_combinators (left : Complex) (combinator : Combinator) : (right : Complex) →
    (left.attach combinator right).combinators =
      left.combinators ++ combinator :: right.combinators
  | .start _ _ => rfl
  | .link inner _ _ => by
      simp only [Complex.attach, Complex.combinators, attach_combinators left combinator inner,
        List.append_assoc, List.cons_append]

-- A comma joins lists, the parentheses of a pseudo-class hold one, and a blank joins entries.
theorem texts_compose (s t : String) :
    (∀ as bs, SelectorList.parseRelative s = .ok as → SelectorList.parseRelative t = .ok bs →
      SelectorList.parseRelative (s ++ "," ++ t) = .ok (as ++ bs)) ∧
    (∀ as bs, SelectorList.parse s = .ok as → SelectorList.parse t = .ok bs →
      SelectorList.parse (s ++ "," ++ t) = .ok (as ++ bs)) ∧
    (∀ list, SelectorList.parse t = .ok list →
      SelectorList.parse (":is(" ++ t ++ ")") = .ok [.start none [.pseudo (.is list)]] ∧
      SelectorList.parse (":not(" ++ t ++ ")") = .ok [.start none [.pseudo (.not list)]]) ∧
    (∀ list, SelectorList.parseRelative t = .ok list →
      SelectorList.parse (":has(" ++ t ++ ")") = .ok [.start none [.pseudo (.has list)]]) ∧
    ∀ a b, SelectorList.parseRelative s = .ok [a] → SelectorList.parseRelative t = .ok [b] →
      b.anchor = none → ∃ c, SelectorList.parseRelative (s ++ " " ++ t) = .ok [c] ∧
        c.anchor = a.anchor ∧ c.compounds = a.compounds ++ b.compounds ∧
        c.combinators = a.combinators ++ .descendant :: b.combinators := by
  refine ⟨parse_lists_joined true s t, parse_lists_joined false s t, fun list read => ⟨?_, ?_⟩,
    fun list read => ?_, fun a b readFirst readSecond free => ?_⟩
  · exact parse_enclosed false .is t list rfl rfl read
  · exact parse_enclosed false .not t list rfl rfl read
  · exact parse_enclosed true .has t list rfl rfl read
  · refine ⟨a.attach .descendant b, ?_, attach_anchor _ _ b, attach_compounds _ _ b,
      attach_combinators _ _ b⟩
    simpa [SelectorList.parseRelative] using
      parse_joined s.toList t.toList a b readFirst readSecond free

theorem child_then_descendant :
    SelectorList.parseRelative "> p" = .ok [.start (some .child) [.type "p"]] ∧
    SelectorList.parse "em" = .ok [.start none [.type "em"]] ∧
    SelectorList.parseRelative "> p,em" =
      .ok [.start (some .child) [.type "p"], .start none [.type "em"]] ∧
    SelectorList.parse ":is(em)" = .ok [.start none [.pseudo (.is [.start none [.type "em"]])]] ∧
    ∃ c, SelectorList.parseRelative "> p em" = .ok [c] ∧ c.anchor = some .child ∧
      c.compounds = [[.type "p"], [.type "em"]] ∧ c.combinators = [.descendant] := by
  have first : SelectorList.parseRelative "> p" = .ok [.start (some .child) [.type "p"]] := by
    rfl
  have second : SelectorList.parseRelative "em" = .ok [.start none [.type "em"]] := by
    rfl
  have bare : SelectorList.parse "em" = .ok [.start none [.type "em"]] := by
    rfl
  obtain ⟨comma, _, enclosed, _, blank⟩ := texts_compose "> p" "em"
  exact ⟨first, bare, comma _ _ first second, (enclosed _ bare).1, blank _ _ first second rfl⟩

end DomQuery.Selector
