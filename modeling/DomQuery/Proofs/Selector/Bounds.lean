import DomQuery.Proofs.Selector.Entries

set_option autoImplicit false

namespace DomQuery.Selector

theorem bind_alike {α β : Type} {first : Reading α} {next next' : α → Reading β}
    (alike : ∀ a, first = .ok a → next a = next' a) : (first >>= next) = (first >>= next') := by
  cases first with
  | error e => rfl
  | ok a => exact alike a rfl

section Nested

-- Two ways to read nested lists that read the same from texts below some length.
variable {inner deeper : Bool → List Char → Reading (SelectorList × List Char)} {limit : Nat}
  (alike : ∀ relative cs, cs.length < limit → inner relative cs = deeper relative cs)

include alike

theorem pseudo_argument_within (name : String) (cs : List Char) (below : cs.length < limit) :
    pseudoArgument inner name cs = pseudoArgument deeper name cs := by
  unfold pseudoArgument
  cases nthPseudo? name with
  | some make => rfl
  | none =>
      cases listPseudo? name with
      | none => rfl
      | some list => simp only [alike list.1 cs below]

theorem named_pseudo_within (name : String) (cs : List Char) (within : cs.length ≤ limit) :
    namedPseudo inner name cs = namedPseudo deeper name cs := by
  cases cs with
  | nil => rfl
  | cons c cs =>
      by_cases opens : c = '('
      · subst opens
        rw [namedPseudo, namedPseudo, pseudo_argument_within alike name cs within]
      · rw [named_pseudo_bare name c cs opens, named_pseudo_bare name c cs opens]

theorem pseudo_within (cs : List Char) (within : cs.length ≤ limit) :
    pseudo inner cs = pseudo deeper cs := by
  apply bind_alike
  rintro ⟨word, rest⟩ read
  have shorter := ident_carries.shorter cs rest word read
  exact named_pseudo_within alike (lowerAscii word) rest (shorter.trans within)

theorem condition_within (cs : List Char) (within : cs.length ≤ limit) :
    condition? inner cs = condition? deeper cs := by
  unfold condition?
  split
  · rfl
  · rfl
  · rfl
  · next cs =>
      rw [pseudo_within alike cs (Nat.le_of_succ_le within)]
  · rfl

variable (steady : ∀ relative, Carries never (inner relative) (inner relative))

include steady

omit alike in
theorem condition_shorter (cs rest : List Char) (part : Simple)
    (read : condition? inner cs = some (.ok (part, rest))) : rest.length < cs.length := by
  cases cs with
  | nil => cases read
  | cons c cs =>
      obtain ⟨front, split, _⟩ := condition_carries steady c cs rest part read
      rw [split, List.length_cons, List.length_append]
      omega

theorem conditions_within (steps steps' : Nat) (cs : List Char) (within : cs.length ≤ limit)
    (enough : cs.length ≤ steps) (enough' : cs.length ≤ steps') :
    conditions inner steps cs = conditions deeper steps' cs := by
  induction steps generalizing steps' cs with
  | zero =>
      obtain rfl := List.eq_nil_of_length_eq_zero (Nat.le_zero.mp enough)
      exact (conditions_stay steps' [] rfl).symm
  | succ steps ih =>
      have same := condition_within alike cs within
      cases found : condition? inner cs with
      | none => rw [conditions_stay _ cs found, conditions_stay _ cs (same.symm.trans found)]
      | some read =>
          cases steps' with
          | zero =>
              obtain rfl := List.eq_nil_of_length_eq_zero (Nat.le_zero.mp enough')
              cases found
          | succ steps' =>
              rw [conditions, conditions, ← same, found]
              apply bind_alike
              rintro ⟨part, rest⟩ ok
              rw [ok] at found
              have shorter := condition_shorter steady cs rest part found
              change (conditions inner steps rest >>= _) = (conditions deeper steps' rest >>= _)
              rw [ih steps' rest (by omega) (by omega) (by omega)]

theorem compound_within (cs : List Char) (within : cs.length ≤ limit) :
    compound inner cs = compound deeper cs := by
  apply bind_alike
  rintro ⟨first, rest⟩ read
  have shorter := opening_carries.shorter cs rest first read
  change (conditions inner rest.length rest >>= _) = (conditions deeper rest.length rest >>= _)
  rw [conditions_within alike steady _ rest.length rest (shorter.trans within) (Nat.le_refl _)
    (Nat.le_refl _)]

theorem continuation_within (steps steps' : Nat) (left : Complex) (cs : List Char)
    (within : cs.length ≤ limit) (enough : cs.length ≤ steps) (enough' : cs.length ≤ steps') :
    continuation inner steps left cs = continuation deeper steps' left cs := by
  induction steps generalizing steps' left cs with
  | zero =>
      obtain rfl := List.eq_nil_of_length_eq_zero (Nat.le_zero.mp enough)
      cases steps' <;> rfl
  | succ steps ih =>
      cases steps' with
      | zero =>
          obtain rfl := List.eq_nil_of_length_eq_zero (Nat.le_zero.mp enough')
          rfl
      | succ steps' =>
          apply bind_alike
          rintro ⟨found, middle⟩ separates
          cases found with
          | none => rfl
          | some combinator =>
              have fewer := separator_shorter cs middle combinator separates
              have same := compound_within alike steady middle (by omega)
              change (compound inner middle >>= _) = (compound deeper middle >>= _)
              rw [← same]
              apply bind_alike
              rintro ⟨parts, behind⟩ joined
              have shorter := compound_shorter steady middle behind parts joined
              exact ih steps' (.link left combinator parts) behind (by omega) (by omega) (by omega)

theorem complex_within (relative : Bool) (cs : List Char) (within : cs.length ≤ limit) :
    complex inner relative cs = complex deeper relative cs := by
  apply bind_alike
  rintro ⟨lead, begun⟩ anchored
  have fewer := (anchor_carries relative).shorter cs begun lead anchored
  have same := compound_within alike steady begun (by omega)
  change (compound inner begun >>= _) = (compound deeper begun >>= _)
  rw [← same]
  apply bind_alike
  rintro ⟨parts, behind⟩ joined
  have shorter := compound_shorter steady begun behind parts joined
  exact continuation_within alike steady _ _ (.start lead parts) behind (by omega) (Nat.le_refl _)
    (Nat.le_refl _)

omit alike in
theorem behind_comma (relative : Bool) (cs middle rest : List Char) (entry : Complex)
    (first : complex inner relative (skipBlank cs) = .ok (entry, middle))
    (comma : skipBlank middle = ',' :: rest) : rest.length < cs.length := by
  have shorter := (complex_carries steady steady steady relative).shorter _ _ _ first
  have skipped := List.length_dropWhile_le Text.isBlank cs
  have behind := List.length_dropWhile_le Text.isBlank middle
  rw [show middle.dropWhile Text.isBlank = ',' :: rest from comma, List.length_cons] at behind
  exact Nat.lt_of_succ_le (behind.trans (shorter.trans skipped))

theorem entries_within (relative enclosed : Bool) (steps steps' : Nat) (cs : List Char)
    (within : cs.length ≤ limit) (enough : cs.length < steps) (enough' : cs.length < steps') :
    entries inner relative enclosed steps cs = entries deeper relative enclosed steps' cs := by
  induction steps generalizing steps' cs with
  | zero => exact absurd enough (Nat.not_lt_zero _)
  | succ steps ih =>
      cases steps' with
      | zero => exact absurd enough' (Nat.not_lt_zero _)
      | succ steps' =>
          have skipped := List.length_dropWhile_le Text.isBlank cs
          have same := complex_within alike steady relative (skipBlank cs) (skipped.trans within)
          rw [entries, entries, ← same]
          apply bind_alike
          rintro ⟨entry, middle⟩ first
          simp only
          split
          · next rest comma =>
              have fewer := behind_comma steady relative cs middle rest entry first comma
              rw [ih steps' rest (by omega) (by omega) (by omega)]
          · rfl

end Nested

-- What stands behind a compound: nothing more of the entry, or a further compound.
def behindCompound (nested : Bool → List Char → Reading (SelectorList × List Char))
    (left : Complex) : Option Combinator → List Char → Reading (Complex × List Char)
  | none, rest => .ok (left, rest)
  | some combinator, rest => compound nested rest >>= fun next =>
      continuation nested next.2.length (.link left combinator next.1) next.2

def behindEntry (enclosed : Bool) (more : List Char → Reading (SelectorList × List Char))
    (entry : Complex) : List Char → Reading (SelectorList × List Char)
  | ',' :: rest => (more rest).map fun others => (entry :: others.1, others.2)
  | rest => if atListEnd enclosed rest then .ok ([entry], rest) else .error (.stuck rest)

-- So the loops go on as if nothing counted their steps.
section Loops

variable {nested : Bool → List Char → Reading (SelectorList × List Char)}
  (steady : ∀ relative, Carries never (nested relative) (nested relative))

include steady

theorem conditions_next (cs : List Char) (read : Reading (Simple × List Char))
    (found : condition? nested cs = some read) :
    conditions nested cs.length cs = read >>= fun r =>
      (conditions nested r.2.length r.2).map fun others => (r.1 :: others.1, others.2) := by
  cases cs with
  | nil => cases found
  | cons c cs =>
      rw [List.length_cons, conditions, found]
      apply bind_alike
      rintro ⟨part, rest⟩ first
      rw [first] at found
      have shorter := condition_shorter steady _ rest part found
      rw [← conditions_within (fun _ _ _ => rfl) steady cs.length rest.length rest (Nat.le_refl _)
        (Nat.le_of_lt_succ shorter) (Nat.le_refl _)]
      rfl

theorem continuation_next (left : Complex) (cs : List Char) :
    continuation nested cs.length left cs =
      separator cs >>= fun r => behindCompound nested left r.1 r.2 := by
  cases cs with
  | nil => rfl
  | cons c cs =>
      apply bind_alike
      rintro ⟨found, middle⟩ separates
      cases found with
      | none => rfl
      | some combinator =>
          apply bind_alike
          rintro ⟨parts, behind⟩ joined
          have fewer := separator_shorter _ middle combinator separates
          have shorter := compound_shorter steady middle behind parts joined
          rw [List.length_cons] at fewer
          exact continuation_within (fun _ _ _ => rfl) steady _ _ _ behind (Nat.le_refl _) (by omega)
            (Nat.le_refl _)

theorem entries_next (relative enclosed : Bool) (cs : List Char) :
    entries nested relative enclosed (cs.length + 1) cs =
      complex nested relative (skipBlank cs) >>= fun r =>
        behindEntry enclosed (fun rest => entries nested relative enclosed (rest.length + 1) rest) r.1
          (skipBlank r.2) := by
  rw [entries]
  apply bind_alike
  rintro ⟨entry, middle⟩ first
  simp only
  split
  · next rest comma =>
      have fewer := behind_comma steady relative cs middle rest entry first comma
      rw [entries_within (fun _ _ _ => rfl) steady relative enclosed cs.length (rest.length + 1) rest
        (Nat.le_refl _) fewer (Nat.lt_succ_self _), comma]
      rfl
  · next other =>
      rw [behindEntry]
      exact other

end Loops

-- Lists within lists are shorter, so a depth that exceeds the length is as good as any.
theorem list_at_within (depth depth' : Nat) (relative enclosed : Bool) (cs : List Char)
    (enough : cs.length < depth) (enough' : cs.length < depth') :
    listAt depth relative enclosed cs = listAt depth' relative enclosed cs := by
  induction depth generalizing depth' relative enclosed cs with
  | zero => exact absurd enough (Nat.not_lt_zero _)
  | succ depth ih =>
      cases depth' with
      | zero => exact absurd enough' (Nat.not_lt_zero _)
      | succ depth' =>
          have alike (relative : Bool) (text : List Char) (below : text.length < cs.length) :
              listAt depth relative true text = listAt depth' relative true text :=
            ih depth' relative true text (by omega) (by omega)
          exact entries_within alike (list_at_steady depth) relative enclosed _ _ cs (Nat.le_refl _)
            (Nat.lt_succ_self _) (Nat.lt_succ_self _)

end DomQuery.Selector
