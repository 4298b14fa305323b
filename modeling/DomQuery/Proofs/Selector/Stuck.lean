import DomQuery.Proofs.Selector.Bounds

set_option autoImplicit false

namespace DomQuery.Selector

-- If reading gets stuck in front of a character, it does so there in every text that begins alike
-- up to this character and with it.
def SticksAt {α : Type} (f : List Char → Reading α) (cs : List Char) : Prop :=
  ∀ c rest, f cs = .error (.stuck (c :: rest)) → ∃ front, cs = front ++ c :: rest ∧
    ∀ rest', f (front ++ c :: rest') = .error (.stuck (c :: rest'))

def Sticks {α : Type} (f : List Char → Reading α) : Prop := ∀ cs, SticksAt f cs

theorem error_of_bind {ε α β : Type} {first : Except ε α} {next : α → Except ε β} {e : ε}
    (failed : first >>= next = .error e) :
    first = .error e ∨ ∃ a, first = .ok a ∧ next a = .error e := by
  cases first with
  | error _ => exact Or.inl (congrArg Except.error (Except.error.inj failed))
  | ok a => exact Or.inr ⟨a, rfl, failed⟩

theorem error_of_map {ε α β : Type} {first : Except ε α} {make : α → β} {e : ε}
    (failed : first.map make = .error e) : first = .error e := by
  cases first with
  | error _ => exact congrArg Except.error (Except.error.inj failed)
  | ok a => cases failed

namespace SticksAt

variable {α β : Type} {f g : List Char → Reading α} {c : Char} {cs : List Char}

theorem of_never (free : ∀ c rest, f cs ≠ .error (.stuck (c :: rest))) : SticksAt f cs :=
  fun c rest stuck => absurd stuck (free c rest)

theorem of_ok {a : α} (read : f cs = .ok a) : SticksAt f cs := by
  apply of_never
  intro c rest stuck
  cases read.symm.trans stuck

theorem of_end (ended : ∀ e, f cs = .error e → e = .stuck []) : SticksAt f cs := by
  apply of_never
  intro c rest stuck
  cases ended _ stuck

theorem here (stuck : ∀ tail, f (c :: tail) = .error (.stuck (c :: tail))) :
    SticksAt f (c :: cs) := by
  intro d rest failed
  rw [stuck] at failed
  obtain ⟨rfl, rfl⟩ := List.cons.inj (Reject.stuck.inj (Except.error.inj failed))
  exact ⟨[], rfl, stuck⟩

theorem at_once (stuck : ∀ cs, f cs = .error (.stuck cs)) : SticksAt f cs := by
  cases cs with
  | nil =>
      apply of_never
      intro c rest failed
      cases (stuck []).symm.trans failed
  | cons c cs => exact here fun tail => stuck (c :: tail)

theorem step (same : ∀ tail, f (c :: tail) = g tail) (later : SticksAt g cs) :
    SticksAt f (c :: cs) := by
  intro d rest stuck
  rw [same] at stuck
  obtain ⟨front, split, again⟩ := later d rest stuck
  refine ⟨c :: front, by rw [split, List.cons_append], fun rest' => ?_⟩
  rw [List.cons_append, same]
  exact again rest'

theorem begins {d : Char} {front rest : List Char} (split : c :: cs = front ++ d :: rest)
    (rest' : List Char) : ∃ tail, front ++ d :: rest' = c :: tail := by
  have alike : GoesOn never (front ++ d :: rest) (front ++ d :: rest') :=
    (GoesOn.head d rest rest').append front
  rw [← split] at alike
  exact alike.cons

theorem look (same : ∀ tail, f (c :: tail) = g (c :: tail)) (later : SticksAt g (c :: cs)) :
    SticksAt f (c :: cs) := by
  intro d rest stuck
  rw [same] at stuck
  obtain ⟨front, split, again⟩ := later d rest stuck
  refine ⟨front, split, fun rest' => ?_⟩
  obtain ⟨tail, begun⟩ := begins split rest'
  rw [← again rest', begun, same]

theorem map (sticks : SticksAt f cs) (make : α → β) : SticksAt (fun cs => (f cs).map make) cs := by
  intro c rest stuck
  obtain ⟨front, split, again⟩ := sticks c rest (error_of_map stuck)
  refine ⟨front, split, fun rest' => ?_⟩
  change (f (front ++ c :: rest')).map make = _
  rw [again rest']
  rfl

theorem bind {stop : Char → Bool} {f : List Char → Reading (α × List Char)}
    (first : SticksAt f cs) (g : α → List Char → Reading β) (carries : CarriesAt stop f f cs)
    (second : ∀ a middle, f cs = .ok (a, middle) → SticksAt (g a) middle) :
    SticksAt (fun cs => f cs >>= fun r => g r.1 r.2) cs := by
  intro c rest stuck
  rcases error_of_bind stuck with early | ⟨⟨a, middle⟩, read, late⟩
  · obtain ⟨front, split, again⟩ := first c rest early
    refine ⟨front, split, fun rest' => ?_⟩
    change (f (front ++ c :: rest') >>= fun r => g r.1 r.2) = _
    rw [again rest']
    rfl
  · obtain ⟨front, split, carried⟩ := carries a middle read
    obtain ⟨back, splitBack, again⟩ := second a middle read c rest late
    refine ⟨front ++ back, by rw [split, splitBack, List.append_assoc], fun rest' => ?_⟩
    have alike : GoesOn stop middle (back ++ c :: rest') := by
      rw [splitBack]
      exact (GoesOn.head c rest rest').append back
    change (f (front ++ back ++ c :: rest') >>= fun r => g r.1 r.2) = _
    rw [List.append_assoc, carried _ alike]
    exact again rest'

theorem after_blank (sticks : SticksAt f (skipBlank cs)) :
    SticksAt (fun cs => f (skipBlank cs)) cs := by
  intro c rest stuck
  obtain ⟨blanks, splitBlanks, blank⟩ := skip_blank_split cs
  obtain ⟨front, split, again⟩ := sticks c rest stuck
  refine ⟨blanks ++ front, by rw [List.append_assoc, ← split, ← splitBlanks], fun rest' => ?_⟩
  cases skipped : skipBlank cs with
  | nil => simp [skipped] at split
  | cons d tail =>
      rw [skipped] at split
      obtain ⟨tail', begun⟩ := begins split rest'
      have stays : skipBlank (blanks ++ front ++ c :: rest') = front ++ c :: rest' := by
        rw [List.append_assoc, skip_blank_append _ _ blank, begun,
          skip_blank_cons d tail' (skip_blank_head d cs tail skipped)]
      change f (skipBlank (blanks ++ front ++ c :: rest')) = _
      rw [stays]
      exact again rest'

end SticksAt

theorem Sticks.bind {α β : Type} {stop : Char → Bool} {f : List Char → Reading (α × List Char)}
    {g : α → List Char → Reading β} (first : Sticks f) (carries : Carries stop f f)
    (second : ∀ a, Sticks (g a)) : Sticks (fun cs => f cs >>= fun r => g r.1 r.2) :=
  fun cs => (first cs).bind g (carries cs) fun a middle _ => second a middle

theorem Sticks.map {α β : Type} {f : List Char → Reading α} (sticks : Sticks f) (make : α → β) :
    Sticks (fun cs => (f cs).map make) :=
  fun cs => (sticks cs).map make

theorem Sticks.or_stuck {α : Type} (failing : Prop) [Decidable failing] (a : α) :
    Sticks fun rest => if failing then .error (.stuck rest) else .ok (a, rest) := by
  intro rest
  by_cases fails : failing
  · simp only [fails, if_true]
    exact .at_once fun _ => rfl
  · simp only [fails, if_false]
    exact .of_ok rfl

theorem Sticks.after_blank {α : Type} {f : List Char → Reading α} (sticks : Sticks f) :
    Sticks (fun cs => f (skipBlank cs)) :=
  fun cs => (sticks (skipBlank cs)).after_blank

theorem ident_chars_failed (cs : List Char) (e : Reject) (failed : identChars cs = .error e) :
    e = .stuck [] := by
  induction cs using identChars.induct with
  | case1 => exact (Except.error.inj failed).symm
  | case2 c cs ih => exact ih (error_of_map failed)
  | case3 c cs _ _ inside ih =>
      rw [ident_chars_inside c cs inside] at failed
      exact ih (error_of_map failed)
  | case4 c cs lone escape outside =>
      rw [ident_chars_outside c cs (by simpa using outside) (no_escape c cs lone escape)] at failed
      cases failed
  | case5 => cases failed

theorem quoted_chars_failed (mark : Char) (cs : List Char) (e : Reject)
    (failed : quotedChars mark cs = .error e) : e = .stuck [] := by
  induction cs using quotedChars.induct mark with
  | case1 => exact (Except.error.inj failed).symm
  | case2 => exact (Except.error.inj failed).symm
  | case3 c cs ih => exact ih (error_of_map failed)
  | case4 cs lone escape =>
      rw [quoted_chars_plain mark mark cs (no_escape mark cs lone escape), if_pos rfl] at failed
      cases failed
  | case5 c cs lone escape inside ih =>
      rw [quoted_chars_plain mark c cs (no_escape c cs lone escape), if_neg inside] at failed
      exact ih (error_of_map failed)

theorem until_paren_failed (cs : List Char) (e : Reject) (failed : untilParen cs = .error e) :
    e = .stuck [] := by
  by_cases closed : ')' ∈ cs
  · rw [untilParen, if_pos closed] at failed
    cases failed
  · rw [untilParen, if_neg closed] at failed
    exact (Except.error.inj failed).symm

theorem contains_argument_failed (cs : List Char) (e : Reject)
    (failed : containsArgument cs = .error e) : e = .stuck [] := by
  cases cs with
  | nil => exact (Except.error.inj failed).symm
  | cons c cs =>
      by_cases quote : isQuote c
      · rw [containsArgument, if_pos quote] at failed
        exact quoted_chars_failed c cs e (error_of_map failed)
      · rw [containsArgument, if_neg quote] at failed
        exact until_paren_failed (c :: cs) e (error_of_map failed)

theorem ident_sticks : Sticks ident := by
  have chars : Sticks identChars := fun cs => .of_end (ident_chars_failed cs)
  exact chars.bind ident_chars_carries fun word => Sticks.or_stuck (word = []) word

theorem expect_sticks (mark : Char) : Sticks (expect mark) := by
  intro cs
  cases cs with
  | nil => exact .of_never nofun
  | cons c cs =>
      by_cases same : c = mark
      · exact .of_ok (if_pos same)
      · exact .here fun _ => if_neg same

theorem attr_op_sticks : Sticks attrOp := by
  intro cs
  cases cs with
  | nil => exact .of_never nofun
  | cons c cs =>
      by_cases equals : c = '='
      · exact .of_ok (if_pos equals)
      · cases mark : AttrRelation.ofMark? c with
        | none =>
            refine .here fun tail => ?_
            rw [attrOp, if_neg equals, mark]
        | some op =>
            refine .step (fun tail => ?_) ((expect_sticks '=' cs).map fun rest => (op, rest))
            rw [attrOp, if_neg equals, mark]

theorem attr_value_sticks : Sticks attrValue := by
  intro cs
  cases cs with
  | nil => exact .of_never nofun
  | cons c cs =>
      by_cases quote : isQuote c
      · have quoted : SticksAt (quotedChars c) cs := .of_end (quoted_chars_failed c cs)
        exact quoted.step fun tail => if_pos quote
      · exact (ident_sticks (c :: cs)).look fun tail => if_neg quote

theorem attr_end_sticks : Sticks attrEnd := by
  have flagged (flag : Bool) := (expect_sticks ']').after_blank.map fun rest => (flag, rest)
  intro cs
  cases cs with
  | nil => exact .of_never nofun
  | cons c cs =>
      by_cases ignored : c = 'i' || c = 'I'
      · refine (flagged true cs).step fun tail => ?_
        rw [attrEnd, caseFlag, if_pos ignored]
        rfl
      · by_cases kept : c = 's' || c = 'S'
        · refine (flagged false cs).step fun tail => ?_
          rw [attrEnd, caseFlag, if_neg ignored, if_pos kept]
          rfl
        · refine ((expect_sticks ']' (c :: cs)).map fun rest => (false, rest)).look fun tail => ?_
          rw [attrEnd, caseFlag, if_neg ignored, if_neg kept]
          rfl

theorem attr_comparison_sticks (name : String) : Sticks (attrComparison name) := by
  have finish (op : AttrRelation) (value : List Char) :=
    attr_end_sticks.after_blank.map fun r : Bool × List Char =>
      (AttrTest.compare name op (.ofList value) r.1, r.2)
  have value (op : AttrRelation) := attr_value_sticks.after_blank.bind
    (attr_value_carries.after_blank ident_empty) (finish op)
  exact attr_op_sticks.bind (attr_op_carries never) value

theorem attr_condition_sticks (name : String) : Sticks (attrCondition name) := by
  intro cs
  cases cs with
  | nil => exact .of_never nofun
  | cons c cs =>
      by_cases mark : c = ']'
      · subst mark
        exact .of_ok rfl
      · refine (attr_comparison_sticks name (c :: cs)).look fun tail => ?_
        rw [attrCondition]
        exact fun _ same => mark (List.cons.inj same).1

theorem attr_test_sticks : Sticks attrTest := by
  have named (word : List Char) := (attr_condition_sticks (lowerAscii word)).after_blank
  exact ident_sticks.after_blank.bind (ident_carries.after_blank ident_empty) named

theorem nth_argument_sticks : Sticks nthArgument := by
  intro cs
  apply SticksAt.of_never
  intro c rest stuck
  rcases error_of_bind stuck with early | ⟨⟨raw, behind⟩, _, late⟩
  · cases until_paren_failed cs _ early
  · cases known : Nth.readStripped? (Nth.strip raw) with
    | none => simp [known] at late
    | some e => simp [known] at late

theorem opening_sticks : Sticks opening := by
  intro cs
  cases cs with
  | nil => exact .of_ok rfl
  | cons c cs =>
      by_cases star : c = '*'
      · subst star
        exact .of_ok rfl
      · by_cases inside : isIdentChar c
        · have typed := (ident_sticks (c :: cs)).map fun r => ([Simple.type (lowerAscii r.1)], r.2)
          refine typed.look fun tail => ?_
          rw [opening_plain c tail star, if_pos inside]
        · apply SticksAt.of_ok
          rw [opening_plain c cs star, if_neg inside]

theorem anchor_sticks (relative : Bool) : Sticks (anchor relative) := by
  intro cs
  cases cs with
  | nil => exact .of_ok rfl
  | cons c cs =>
      cases mark : Combinator.ofMark? c with
      | none =>
          have read : anchor relative (c :: cs) = .ok (none, c :: cs) := by simp only [anchor, mark]
          exact .of_ok read
      | some combinator =>
          cases relative with
          | true =>
              have read : anchor true (c :: cs) = .ok (some combinator, skipBlank cs) := by
                simp only [anchor, mark, if_true]
              exact .of_ok read
          | false =>
              apply SticksAt.here
              intro tail
              simp only [anchor, mark, Bool.false_eq_true, if_false]

theorem separator_refused (c : Char) (tail : List Char) (solid : ¬ Text.isBlank c)
    (inside : ¬ isEnd c) (unmarked : Combinator.ofMark? c = none) :
    separator (c :: tail) = .error (.stuck (c :: tail)) := by
  rw [separator, skip_blank_cons c tail solid]
  simp only [unmarked]
  exact (if_neg inside).trans (if_neg solid)

-- Behind a blank there is always a combinator, unless the entry ends.
theorem separator_sticks : Sticks separator := by
  intro cs
  obtain ⟨blanks, split, blank⟩ := skip_blank_split cs
  cases skipped : skipBlank cs with
  | nil =>
      rw [skipped, List.append_nil] at split
      rw [split]
      exact .of_ok (separator_of_separates _ _ _ (.text blanks blank))
  | cons c tail =>
      have solid := skip_blank_head c cs tail skipped
      rw [split, skipped]
      by_cases ends : isEnd c
      · exact .of_ok (separator_of_separates _ _ _ (.entry blanks tail c blank ends))
      · cases mark : Combinator.ofMark? c with
        | some combinator =>
            exact .of_ok (separator_of_separates _ _ _ (.mark blanks tail c combinator blank mark))
        | none =>
            by_cases spaced : blanks = []
            · rw [spaced]
              exact .here fun tail => separator_refused c tail solid ends mark
            · exact .of_ok
                (separator_of_separates _ _ _ (.blank blanks tail c spaced blank solid ends mark))

section Nested

variable {nested : Bool → List Char → Reading (SelectorList × List Char)}
  (sticks : ∀ relative, Sticks (nested relative))

include sticks

theorem pseudo_argument_sticks (name : String) : Sticks (pseudoArgument nested name) := by
  unfold pseudoArgument
  cases nthPseudo? name with
  | some make => exact nth_argument_sticks.map _
  | none =>
      cases listPseudo? name with
      | some list => exact (sticks list.1).map _
      | none =>
          intro cs
          by_cases contained : name = "contains"
          · simp only [contained, if_true]
            have text : Sticks containsArgument := fun cs => .of_end (contains_argument_failed cs)
            exact (text.after_blank cs).map _
          · simp only [contained, if_false]
            exact .of_never nofun

variable (steady : ∀ relative, Carries never (nested relative) (nested relative))

include steady

theorem named_pseudo_sticks (name : String) : Sticks (namedPseudo nested name) := by
  have closed (cls : PseudoClass) := (expect_sticks ')').map fun rest => (cls, rest)
  have argument := (pseudo_argument_sticks sticks name).bind (pseudo_argument_carries steady name)
    closed
  intro cs
  cases cs with
  | nil =>
      apply SticksAt.of_never
      intro d rest stuck
      cases plain : plainPseudo? name <;> simp [namedPseudo, plain] at stuck
  | cons c cs =>
      by_cases opens : c = '('
      · subst opens
        exact (argument cs).step fun _ => rfl
      · apply SticksAt.of_never
        intro d rest stuck
        rw [named_pseudo_bare name c cs opens] at stuck
        cases plain : plainPseudo? name <;> simp [plain] at stuck

theorem pseudo_sticks : Sticks (pseudo nested) :=
  ident_sticks.bind ident_carries fun word => named_pseudo_sticks sticks steady (lowerAscii word)

theorem condition_read (c : Char) (mark : c ∈ ['#', '.', '[', ':']) :
    ∃ read : List Char → Reading (Simple × List Char),
      (∀ cs, condition? nested (c :: cs) = some (read cs)) ∧ Sticks read ∧
        Carries isStop read read := by
  simp only [List.mem_cons, List.not_mem_nil, or_false] at mark
  rcases mark with rfl | rfl | rfl | rfl
  · exact ⟨_, fun _ => rfl, ident_sticks.map _,
      ident_carries.map fun word => Simple.id (.ofList word)⟩
  · exact ⟨_, fun _ => rfl, ident_sticks.map _,
      ident_carries.map fun word => Simple.className (.ofList word)⟩
  · exact ⟨_, fun _ => rfl, attr_test_sticks.map _, attr_test_carries.map Simple.attribute⟩
  · exact ⟨_, fun _ => rfl, (pseudo_sticks sticks steady).map _,
      (pseudo_carries steady).map Simple.pseudo⟩

theorem conditions_sticks : Sticks fun cs => conditions nested cs.length cs := by
  intro cs
  induction size : cs.length using Nat.strongRecOn generalizing cs with
  | ind _ ih =>
      cases cs with
      | nil => exact .of_ok rfl
      | cons c cs =>
          by_cases mark : c ∈ ['#', '.', '[', ':']
          · obtain ⟨read, reads, stuck, carries⟩ := condition_read sticks steady c mark
            apply SticksAt.step fun tail => conditions_next steady (c :: tail) _ (reads tail)
            apply (stuck cs).bind (fun part rest =>
              (conditions nested rest.length rest).map fun others => (part :: others.1, others.2))
              (carries cs)
            intro part rest first
            have shorter := carries.shorter cs rest part first
            rw [List.length_cons] at size
            exact (ih rest.length (by omega) rest rfl).map _
          · have absent : condition? nested (c :: cs) = none := (condition_none c cs).mpr mark
            exact .of_ok (conditions_stay _ _ absent)

theorem compound_sticks : Sticks (compound nested) :=
  opening_sticks.bind opening_carries fun first =>
    (conditions_sticks sticks steady).bind (all_conditions_carry steady) fun others =>
      Sticks.or_stuck (first ++ others = []) (first ++ others)

theorem continuation_sticks (left : Complex) :
    Sticks fun cs => continuation nested cs.length left cs := by
  intro cs
  induction size : cs.length using Nat.strongRecOn generalizing cs left with
  | ind _ ih =>
      rw [funext (continuation_next steady left)]
      apply (separator_sticks cs).bind (behindCompound nested left) (separator_carries cs)
      intro found middle separates
      cases found with
      | none => exact .of_ok rfl
      | some combinator =>
          apply (compound_sticks sticks steady middle).bind (fun parts rest =>
            continuation nested rest.length (.link left combinator parts) rest)
            (compound_carries steady middle)
          intro parts behind joined
          have fewer := separator_shorter cs middle combinator separates
          have shorter := compound_shorter steady middle behind parts joined
          exact ih behind.length (by omega) (.link left combinator parts) behind rfl

theorem complex_sticks (relative : Bool) : Sticks (complex nested relative) := by
  have continued (lead : Option Combinator) (parts : Compound) :=
    continuation_sticks sticks steady (.start lead parts)
  exact (anchor_sticks relative).bind (anchor_carries relative) fun lead =>
    (compound_sticks sticks steady).bind (compound_carries steady) (continued lead)

omit sticks steady in
theorem behind_entry_sticks (enclosed : Bool)
    (more : List Char → Reading (SelectorList × List Char)) (entry : Complex) (cs : List Char)
    (later : ∀ rest, cs = ',' :: rest → SticksAt more rest) :
    SticksAt (behindEntry enclosed more entry) cs := by
  cases cs with
  | nil => cases enclosed <;> exact .of_never nofun
  | cons c cs =>
      by_cases comma : c = ','
      · subst comma
        exact ((later cs rfl).map _).step fun _ => rfl
      · have bare (tail : List Char) : behindEntry enclosed more entry (c :: tail) =
            if atListEnd enclosed (c :: tail) then .ok ([entry], c :: tail)
            else .error (.stuck (c :: tail)) := by
          rw [behindEntry]
          exact fun rest same => comma (List.cons.inj same).1
        by_cases ends : atListEnd enclosed (c :: cs)
        · exact .of_ok ((bare cs).trans (if_pos ends))
        · exact .here fun tail => (bare tail).trans (if_neg ends)

theorem entries_stick (relative enclosed : Bool) :
    Sticks fun cs => entries nested relative enclosed (cs.length + 1) cs := by
  intro cs
  induction size : cs.length using Nat.strongRecOn generalizing cs with
  | ind _ ih =>
      let more (rest : List Char) := entries nested relative enclosed (rest.length + 1) rest
      rw [funext (entries_next steady relative enclosed)]
      apply ((complex_sticks sticks steady relative).after_blank cs).bind
        (fun entry rest => behindEntry enclosed more entry (skipBlank rest))
        (spaced_complex_carries steady steady steady relative cs)
      intro entry middle first
      apply SticksAt.after_blank
      apply behind_entry_sticks
      intro rest comma
      have fewer := behind_comma steady relative cs middle rest entry first comma
      exact ih rest.length (by omega) rest rfl

end Nested

theorem list_at_sticks (depth : Nat) (relative enclosed : Bool) :
    Sticks (listAt depth relative enclosed) := by
  induction depth generalizing relative enclosed with
  | zero => exact fun cs => .at_once fun _ => rfl
  | succ depth ih =>
      exact entries_stick (fun relative => ih relative true) (list_at_steady depth) relative enclosed

end DomQuery.Selector
