import DomQuery.Selector.Parse
import Mathlib.Data.List.DropRight

set_option autoImplicit false

namespace DomQuery.Selector

-- No compound goes on with this character.
def isStop (c : Char) : Bool :=
  !isIdentChar c && !(['\\', '#', '.', '[', ':', '(', '*'].contains c)

def never : Char → Bool := fun _ => false

-- Two rests of texts with the same next character. Where the first text is at its end, `stop` says
-- which characters may follow in the second.
def GoesOn (stop : Char → Bool) : List Char → List Char → Prop
  | [], [] => True
  | [], c :: _ => stop c
  | _ :: _, [] => False
  | c :: _, d :: _ => c = d

-- What `first` reads of the text, `second` reads of every text that begins with the same part.
def CarriesAt {α : Type} (stop : Char → Bool) (first second : List Char → Reading (α × List Char))
    (cs : List Char) : Prop :=
  ∀ a rest, first cs = .ok (a, rest) → ∃ front, cs = front ++ rest ∧
    ∀ rest', GoesOn stop rest rest' → second (front ++ rest') = .ok (a, rest')

def Carries {α : Type} (stop : Char → Bool) (first second : List Char → Reading (α × List Char)) :
    Prop :=
  ∀ cs, CarriesAt stop first second cs

theorem ok_of_bind {ε α β : Type} {first : Except ε α} {next : α → Except ε β} {b : β}
    (read : first >>= next = .ok b) : ∃ a, first = .ok a ∧ next a = .ok b := by
  cases first with
  | error e => cases read
  | ok a => exact ⟨a, rfl, read⟩

theorem ok_of_map {α β : Type} {first : Reading α} {make : α → β} {b : β}
    (read : first.map make = .ok b) : ∃ a, first = .ok a ∧ make a = b := by
  cases first with
  | error e => cases read
  | ok a => exact ⟨a, rfl, Except.ok.inj read⟩

theorem read_of_map {α β : Type} {first : Reading (α × List Char)}
    {make : α × List Char → β × List Char} {b : β} {rest : List Char}
    (read : first.map make = .ok (b, rest)) (passed : ∀ r, (make r).2 = r.2) :
    ∃ a, first = .ok (a, rest) ∧ (make (a, rest)).1 = b := by
  obtain ⟨⟨a, behind⟩, found, made⟩ := ok_of_map read
  have same : behind = rest := (passed (a, behind)).symm.trans (congrArg Prod.snd made)
  subst same
  exact ⟨a, found, congrArg Prod.fst made⟩

section Rests

variable {stop : Char → Bool}

theorem GoesOn.append {rest rest' : List Char} (alike : GoesOn stop rest rest')
    (front : List Char) : GoesOn stop (front ++ rest) (front ++ rest') := by
  cases front with
  | nil => exact alike
  | cons c front => rfl

theorem GoesOn.same (rest : List Char) : GoesOn stop rest rest := by
  cases rest with
  | nil => trivial
  | cons c rest => rfl

theorem GoesOn.head (c : Char) (rest rest' : List Char) : GoesOn stop (c :: rest) (c :: rest') :=
  rfl

theorem GoesOn.cons {c : Char} {rest rest' : List Char} (alike : GoesOn stop (c :: rest) rest') :
    ∃ tail, rest' = c :: tail := by
  cases rest' with
  | nil => cases alike
  | cons d tail => exact ⟨tail, by rw [show c = d from alike]⟩

theorem GoesOn.mono {wider : Char → Bool} {rest rest' : List Char}
    (alike : GoesOn stop rest rest') (more : ∀ c, stop c → wider c) : GoesOn wider rest rest' := by
  cases rest with
  | nil =>
      cases rest' with
      | nil => trivial
      | cons d tail => exact more d alike
  | cons c rest =>
      cases rest' with
      | nil => cases alike
      | cons d tail => exact alike

end Rests

theorem CarriesAt.step {α β : Type} {stop : Char → Bool} {f k : List Char → Reading (β × List Char)}
    {g h : List Char → Reading (α × List Char)} {c : Char} {cs : List Char}
    (later : CarriesAt stop g h cs) (make : α → β)
    (first : f (c :: cs) = (g cs).map fun r => (make r.1, r.2))
    (second : ∀ cs', k (c :: cs') = (h cs').map fun r => (make r.1, r.2)) :
    CarriesAt stop f k (c :: cs) := by
  intro b rest read
  rw [first] at read
  obtain ⟨⟨a, middle⟩, readLater, made⟩ := ok_of_map read
  obtain ⟨rfl, rfl⟩ := Prod.mk.inj made
  obtain ⟨front, split, carried⟩ := later a middle readLater
  refine ⟨c :: front, by rw [split, List.cons_append], fun rest' alike => ?_⟩
  rw [List.cons_append, second, carried rest' alike]
  rfl

namespace Carries

variable {α β : Type} {stop : Char → Bool}

-- Between two readings other characters may end a part, unless the second can read nothing.
theorem bind_between {between : Char → Bool} {f k : List Char → Reading (α × List Char)}
    {g h : α → List Char → Reading (β × List Char)} (first : Carries between f k)
    (second : ∀ a, Carries stop (g a) (h a))
    (fits : ∀ a r, g a [] = .ok r → ∀ c, stop c → between c) :
    Carries stop (fun cs => f cs >>= fun r => g r.1 r.2) (fun cs => k cs >>= fun r => h r.1 r.2) := by
  intro cs b rest read
  obtain ⟨⟨a, middle⟩, readFirst, readSecond⟩ := ok_of_bind read
  obtain ⟨front, split, carried⟩ := first cs a middle readFirst
  obtain ⟨back, splitRest, carriedRest⟩ := second a middle b rest readSecond
  refine ⟨front ++ back, by rw [split, splitRest, List.append_assoc], fun rest' alike => ?_⟩
  have behind : GoesOn stop middle (back ++ rest') := splitRest ▸ alike.append back
  have inside : GoesOn between middle (back ++ rest') := by
    cases middle with
    | nil => exact behind.mono (fits a _ readSecond)
    | cons c middle =>
        obtain ⟨tail, begun⟩ := behind.cons
        rw [begun]
        rfl
  change (k (front ++ back ++ rest') >>= fun r => h r.1 r.2) = .ok (b, rest')
  rw [List.append_assoc, carried (back ++ rest') inside]
  exact carriedRest rest' alike

theorem bind {f k : List Char → Reading (α × List Char)}
    {g h : α → List Char → Reading (β × List Char)} (first : Carries stop f k)
    (second : ∀ a, Carries stop (g a) (h a)) :
    Carries stop (fun cs => f cs >>= fun r => g r.1 r.2) (fun cs => k cs >>= fun r => h r.1 r.2) :=
  first.bind_between second fun _ _ _ _ same => same

theorem map {f k : List Char → Reading (α × List Char)} (first : Carries stop f k) (make : α → β) :
    Carries stop (fun cs => (f cs).map fun r => (make r.1, r.2))
      (fun cs => (k cs).map fun r => (make r.1, r.2)) := by
  intro cs b rest read
  obtain ⟨⟨a, middle⟩, readFirst, made⟩ := ok_of_map read
  obtain ⟨rfl, rfl⟩ := Prod.mk.inj made
  obtain ⟨front, split, carried⟩ := first cs a middle readFirst
  refine ⟨front, split, fun rest' alike => ?_⟩
  change (k (front ++ rest')).map _ = .ok (make a, rest')
  rw [carried rest' alike]
  rfl

theorem pure (a : α) : Carries stop (fun cs => .ok (a, cs)) (fun cs => .ok (a, cs)) := by
  intro cs b rest read
  obtain ⟨rfl, rfl⟩ := Prod.mk.inj (Except.ok.inj read)
  exact ⟨[], rfl, fun _ _ => rfl⟩

theorem fail {f k : List Char → Reading (α × List Char)} (fails : ∀ cs r, f cs ≠ .ok r) :
    Carries stop f k :=
  fun cs a rest read => absurd read (fails cs (a, rest))

theorem or_stuck (failing : Prop) [Decidable failing] (a : α) : Carries stop
    (fun rest => if failing then .error (.stuck rest) else .ok (a, rest))
    (fun rest => if failing then .error (.stuck rest) else .ok (a, rest)) := by
  by_cases fails : failing
  · simp only [fails, if_true]
    exact Carries.fail fun _ _ read => nomatch read
  · simp only [fails, if_false]
    exact Carries.pure a

theorem same {f k : List Char → Reading (α × List Char)} (carries : Carries stop f k)
    (cs rest : List Char) (a : α) (read : f cs = .ok (a, rest)) : k cs = .ok (a, rest) := by
  obtain ⟨front, split, carried⟩ := carries cs a rest read
  rw [split]
  exact carried rest (GoesOn.same rest)

theorem shorter {f k : List Char → Reading (α × List Char)} (carries : Carries stop f k)
    (cs rest : List Char) (a : α) (read : f cs = .ok (a, rest)) : rest.length ≤ cs.length := by
  obtain ⟨front, split, _⟩ := carries cs a rest read
  rw [split, List.length_append]
  exact Nat.le_add_left _ _

theorem narrow {wider : Char → Bool} {f k : List Char → Reading (α × List Char)}
    (carries : Carries wider f k) (fewer : ∀ c, stop c → wider c) : Carries stop f k := by
  intro cs a rest read
  obtain ⟨front, split, carried⟩ := carries cs a rest read
  exact ⟨front, split, fun rest' alike => carried rest' (alike.mono fewer)⟩

end Carries

theorem skip_blank_split (cs : List Char) :
    ∃ blanks, cs = blanks ++ skipBlank cs ∧ ∀ b ∈ blanks, Text.isBlank b :=
  ⟨cs.takeWhile Text.isBlank, List.takeWhile_append_dropWhile.symm,
    fun _ found => List.mem_takeWhile_imp found⟩

theorem skip_blank_cons (c : Char) (cs : List Char) (mark : ¬ Text.isBlank c) :
    skipBlank (c :: cs) = c :: cs := List.dropWhile_cons_of_neg mark

theorem skip_blank_append (blanks cs : List Char) (blank : ∀ b ∈ blanks, Text.isBlank b) :
    skipBlank (blanks ++ cs) = skipBlank cs := List.dropWhile_append_of_pos blank

theorem skip_blank_head (c : Char) (cs rest : List Char) (skipped : skipBlank cs = c :: rest) :
    ¬ Text.isBlank c := by
  have first := List.head?_dropWhile_not Text.isBlank cs
  rw [show cs.dropWhile Text.isBlank = c :: rest from skipped] at first
  exact Bool.eq_false_iff.mp first

theorem Carries.after_blank {α : Type} {stop : Char → Bool}
    {f k : List Char → Reading (α × List Char)} (carries : Carries stop f k)
    (needs : ∀ r, f [] ≠ .ok r) :
    Carries stop (fun cs => f (skipBlank cs)) (fun cs => k (skipBlank cs)) := by
  intro cs a rest read
  change f (skipBlank cs) = .ok (a, rest) at read
  obtain ⟨blanks, splitBlanks, blank⟩ := skip_blank_split cs
  obtain ⟨front, split, carried⟩ := carries (skipBlank cs) a rest read
  refine ⟨blanks ++ front, by rw [List.append_assoc, ← split, ← splitBlanks], ?_⟩
  intro rest' alike
  cases skipped : skipBlank cs with
  | nil =>
      rw [skipped] at read
      exact absurd read (needs _)
  | cons c tail =>
      have further : GoesOn stop (c :: tail) (front ++ rest') := by
        rw [← skipped, split]
        exact alike.append front
      obtain ⟨tail', begun⟩ := further.cons
      have stays : skipBlank (blanks ++ front ++ rest') = front ++ rest' := by
        rw [List.append_assoc, skip_blank_append _ _ blank, begun,
          skip_blank_cons c tail' (skip_blank_head c cs tail skipped)]
      change k (skipBlank (blanks ++ front ++ rest')) = .ok (a, rest')
      rw [stays]
      exact carried rest' alike

theorem stop_outside (c : Char) (ends : isStop c) : isIdentChar c = false ∧ c ≠ '\\' := by
  rw [isStop, Bool.and_eq_true] at ends
  refine ⟨by simpa using ends.1, ?_⟩
  rintro rfl
  simp at ends

theorem ident_chars_inside (c : Char) (cs : List Char) (inside : isIdentChar c = true) :
    identChars (c :: cs) = (identChars cs).map fun r => (c :: r.1, r.2) := by
  have other : c ≠ '\\' := by
    rintro rfl
    revert inside
    decide
  rw [identChars, if_pos inside]
  · exact fun same _ => other same
  · exact fun _ _ same _ => other same

theorem ident_chars_outside (c : Char) (cs : List Char) (outside : isIdentChar c = false)
    (other : c ≠ '\\') : identChars (c :: cs) = .ok ([], c :: cs) := by
  rw [identChars, if_neg (by simp [outside])]
  · exact fun same _ => other same
  · exact fun _ _ same _ => other same

theorem no_escape (c : Char) (cs : List Char) (lone : c = '\\' → cs = [] → False)
    (escape : ∀ d rest, c = '\\' → cs = d :: rest → False) : c ≠ '\\' := by
  intro same
  cases cs with
  | nil => exact lone same rfl
  | cons d cs => exact escape d cs same rfl

theorem ident_chars_carries : Carries isStop identChars identChars := by
  intro cs
  induction cs using identChars.induct with
  | case1 =>
      intro word rest read
      cases read
  | case2 c cs ih =>
      intro word rest read
      obtain ⟨⟨tail, rest⟩, readTail, made⟩ := ok_of_map read
      obtain ⟨rfl, rfl⟩ := Prod.mk.inj made
      obtain ⟨front, split, carried⟩ := ih tail rest readTail
      refine ⟨'\\' :: c :: front, by rw [split]; rfl, fun rest' alike => ?_⟩
      rw [List.cons_append, List.cons_append, identChars, carried rest' alike]
      rfl
  | case3 c cs _ _ inside ih =>
      exact ih.step (c :: ·) (ident_chars_inside c cs inside)
        fun cs' => ident_chars_inside c cs' inside
  | case4 c cs lone escape outside =>
      intro word rest read
      have other := no_escape c cs lone escape
      rw [ident_chars_outside c cs (by simpa using outside) other] at read
      obtain ⟨rfl, rfl⟩ := Prod.mk.inj (Except.ok.inj read)
      refine ⟨[], rfl, fun rest' alike => ?_⟩
      obtain ⟨tail, rfl⟩ := alike.cons
      exact ident_chars_outside c tail (by simpa using outside) other
  | case5 =>
      intro word rest read
      obtain ⟨rfl, rfl⟩ := Prod.mk.inj (Except.ok.inj read)
      refine ⟨[], rfl, fun rest' alike => ?_⟩
      cases rest' with
      | nil => rfl
      | cons c tail =>
          obtain ⟨outside, other⟩ := stop_outside c alike
          exact ident_chars_outside c tail outside other

theorem ident_carries : Carries isStop ident ident :=
  ident_chars_carries.bind fun word => Carries.or_stuck (word = []) word

theorem ident_empty (r : List Char × List Char) : ident [] ≠ .ok r := by
  intro read
  cases read

theorem quoted_chars_plain (mark c : Char) (cs : List Char) (other : c ≠ '\\') :
    quotedChars mark (c :: cs) =
      if c = mark then .ok ([], cs) else (quotedChars mark cs).map fun r => (c :: r.1, r.2) := by
  rw [quotedChars]
  · exact fun same _ => other same
  · exact fun _ _ same _ => other same

theorem quoted_chars_carries (mark : Char) (stop : Char → Bool) :
    Carries stop (quotedChars mark) (quotedChars mark) := by
  intro cs
  induction cs using quotedChars.induct mark with
  | case1 =>
      intro word rest read
      cases read
  | case2 =>
      intro word rest read
      cases read
  | case3 c cs ih =>
      intro word rest read
      obtain ⟨⟨tail, rest⟩, readTail, made⟩ := ok_of_map read
      obtain ⟨rfl, rfl⟩ := Prod.mk.inj made
      obtain ⟨front, split, carried⟩ := ih tail rest readTail
      refine ⟨'\\' :: c :: front, by rw [split]; rfl, fun rest' alike => ?_⟩
      rw [List.cons_append, List.cons_append, quotedChars, carried rest' alike]
      rfl
  | case4 cs lone escape =>
      intro word rest read
      have other := no_escape mark cs lone escape
      rw [quoted_chars_plain mark mark cs other, if_pos rfl] at read
      obtain ⟨rfl, rfl⟩ := Prod.mk.inj (Except.ok.inj read)
      refine ⟨[mark], rfl, fun rest' _ => ?_⟩
      rw [List.cons_append, quoted_chars_plain mark mark _ other, if_pos rfl]
      rfl
  | case5 c cs lone escape inside ih =>
      have other := no_escape c cs lone escape
      refine ih.step (c :: ·) ?_ fun cs' => ?_
      · rw [quoted_chars_plain mark c cs other, if_neg inside]
      · rw [quoted_chars_plain mark c cs' other, if_neg inside]

theorem expect_ok (mark : Char) (cs rest : List Char) (read : expect mark cs = .ok rest) :
    cs = mark :: rest := by
  cases cs with
  | nil => cases read
  | cons c cs =>
      by_cases same : c = mark
      · rw [expect, if_pos same] at read
        rw [same, Except.ok.inj read]
      · rw [expect, if_neg same] at read
        cases read

theorem expect_mark (mark : Char) (rest : List Char) : expect mark (mark :: rest) = .ok rest :=
  if_pos rfl

theorem attr_op_carries (stop : Char → Bool) : Carries stop attrOp attrOp := by
  intro cs op rest read
  cases cs with
  | nil => cases read
  | cons c cs =>
      by_cases equals : c = '='
      · rw [attrOp, if_pos equals] at read
        obtain ⟨rfl, rfl⟩ := Prod.mk.inj (Except.ok.inj read)
        exact ⟨[c], rfl, fun rest' _ => if_pos equals⟩
      · rw [attrOp, if_neg equals] at read
        cases mark : AttrRelation.ofMark? c with
        | none => simp [mark] at read
        | some found =>
            rw [mark] at read
            obtain ⟨behind, expected, made⟩ := ok_of_map read
            obtain ⟨rfl, rfl⟩ := Prod.mk.inj made
            rw [expect_ok '=' cs behind expected]
            refine ⟨[c, '='], rfl, fun rest' _ => ?_⟩
            rw [List.cons_append, attrOp, if_neg equals, mark]
            rfl

theorem attr_value_carries : Carries isStop attrValue attrValue := by
  intro cs
  cases cs with
  | nil =>
      intro value rest read
      exact absurd read (ident_empty _)
  | cons c cs =>
      intro value rest read
      by_cases quote : isQuote c
      · rw [attrValue, if_pos quote] at read
        obtain ⟨front, split, carried⟩ := quoted_chars_carries c isStop cs value rest read
        refine ⟨c :: front, by rw [split, List.cons_append], fun rest' alike => ?_⟩
        rw [List.cons_append, attrValue, if_pos quote]
        exact carried rest' alike
      · rw [attrValue, if_neg quote] at read
        obtain ⟨front, split, carried⟩ := ident_carries (c :: cs) value rest read
        refine ⟨front, split, fun rest' alike => ?_⟩
        have further : GoesOn isStop (c :: cs) (front ++ rest') := split ▸ alike.append front
        obtain ⟨tail, begun⟩ := further.cons
        rw [← carried rest' alike, begun, attrValue, if_neg quote]

theorem skip_blank_to (c : Char) (cs rest : List Char) (skipped : skipBlank cs = c :: rest) :
    ∃ front, cs = front ++ rest ∧ ∀ rest', skipBlank (front ++ rest') = c :: rest' := by
  obtain ⟨blanks, split, blank⟩ := skip_blank_split cs
  refine ⟨blanks ++ [c], by rw [split, skipped, List.append_assoc]; rfl, fun rest' => ?_⟩
  rw [List.append_assoc, skip_blank_append blanks _ blank]
  exact skip_blank_cons c rest' (skip_blank_head c cs rest skipped)

theorem case_flag_front (cs rest : List Char) (closed : (caseFlag cs).2 = ']' :: rest) :
    ∃ front, cs = front ++ rest ∧
      ∀ rest', caseFlag (front ++ rest') = ((caseFlag cs).1, ']' :: rest') := by
  cases cs with
  | nil => cases closed
  | cons c cs =>
      by_cases ignored : c = 'i' || c = 'I'
      · rw [caseFlag, if_pos ignored] at closed ⊢
        obtain ⟨front, split, skipped⟩ := skip_blank_to ']' cs rest closed
        refine ⟨c :: front, by rw [split, List.cons_append], fun rest' => ?_⟩
        rw [List.cons_append, caseFlag, if_pos ignored, skipped]
      · by_cases kept : c = 's' || c = 'S'
        · rw [caseFlag, if_neg ignored, if_pos kept] at closed ⊢
          obtain ⟨front, split, skipped⟩ := skip_blank_to ']' cs rest closed
          refine ⟨c :: front, by rw [split, List.cons_append], fun rest' => ?_⟩
          rw [List.cons_append, caseFlag, if_neg ignored, if_pos kept, skipped]
        · rw [caseFlag, if_neg ignored, if_neg kept] at closed ⊢
          obtain ⟨rfl, rfl⟩ := List.cons.inj closed
          exact ⟨[']'], rfl, fun _ => rfl⟩

theorem attr_end_carries (stop : Char → Bool) : Carries stop attrEnd attrEnd := by
  intro cs ignoreCase rest read
  have same (cs : List Char) : attrEnd cs =
      (expect ']' (caseFlag cs).2).map fun rest => ((caseFlag cs).1, rest) := rfl
  rw [same] at read
  obtain ⟨behind, expected, made⟩ := ok_of_map read
  obtain ⟨rfl, rfl⟩ := Prod.mk.inj made
  obtain ⟨front, split, flagged⟩ := case_flag_front cs behind (expect_ok _ _ _ expected)
  refine ⟨front, split, fun rest' _ => ?_⟩
  rw [same, flagged, expect_mark]
  rfl

theorem attr_comparison_carries (name : String) :
    Carries isStop (attrComparison name) (attrComparison name) := by
  have finish (op : AttrRelation) (value : List Char) :=
    ((attr_end_carries isStop).after_blank fun r read => nomatch read).map fun flag =>
      AttrTest.compare name op (.ofList value) flag
  have value (op : AttrRelation) := (attr_value_carries.after_blank ident_empty).bind (finish op)
  exact (attr_op_carries isStop).bind value

theorem attr_condition_carries (name : String) :
    Carries isStop (attrCondition name) (attrCondition name) := by
  intro cs test rest read
  have compared := attr_comparison_carries name cs test rest
  cases cs with
  | nil => cases read
  | cons c cs =>
      have other (tail : List Char) (mark : c ≠ ']') :
          attrCondition name (c :: tail) = attrComparison name (c :: tail) := by
        rw [attrCondition]
        exact fun _ same => mark (List.cons.inj same).1
      by_cases mark : c = ']'
      · subst mark
        obtain ⟨rfl, rfl⟩ := Prod.mk.inj (Except.ok.inj read)
        exact ⟨[']'], rfl, fun _ _ => rfl⟩
      · obtain ⟨front, split, carried⟩ := compared (other cs mark ▸ read)
        refine ⟨front, split, fun rest' alike => ?_⟩
        obtain ⟨tail, begun⟩ := (split ▸ alike.append front : GoesOn isStop (c :: cs) _).cons
        rw [← carried rest' alike, begun]
        exact other tail mark

theorem attr_test_carries : Carries isStop attrTest attrTest := by
  have named (word : List Char) := (attr_condition_carries (lowerAscii word)).after_blank
    fun r read => nomatch read
  exact (ident_carries.after_blank ident_empty).bind named

theorem until_paren_append (word rest : List Char) (fresh : ')' ∉ word) :
    untilParen (word ++ ')' :: rest) = .ok (word, ')' :: rest) := by
  have inside : ∀ c ∈ word, decide (c ≠ ')') = true := by
    intro c member
    refine decide_eq_true fun same => fresh ?_
    rwa [← same]
  rw [untilParen, if_pos (by simp), List.takeWhile_append_of_pos inside,
    List.dropWhile_append_of_pos inside]
  simp

theorem until_paren_carries (stop : Char → Bool) : Carries stop untilParen untilParen := by
  intro cs word rest read
  by_cases closed : ')' ∈ cs
  · obtain ⟨front, behind, rfl, fresh⟩ := List.eq_append_cons_of_mem closed
    rw [until_paren_append front behind fresh] at read
    obtain ⟨rfl, rfl⟩ := Prod.mk.inj (Except.ok.inj read)
    refine ⟨front, rfl, fun rest' alike => ?_⟩
    obtain ⟨tail, rfl⟩ := alike.cons
    exact until_paren_append front tail fresh
  · rw [untilParen, if_neg closed] at read
    cases read

theorem nth_argument_carries (stop : Char → Bool) : Carries stop nthArgument nthArgument := by
  intro cs e rest read
  obtain ⟨⟨raw, behind⟩, found, later⟩ := ok_of_bind read
  obtain ⟨front, split, carried⟩ := until_paren_carries stop cs raw behind found
  cases known : Nth.readStripped? (Nth.strip raw) with
  | none => simp [known] at later
  | some e =>
      simp only [known] at later
      obtain ⟨rfl, rfl⟩ := Prod.mk.inj (Except.ok.inj later)
      refine ⟨front, split, fun rest' alike => ?_⟩
      simp only [nthArgument, carried rest' alike, bind, Except.bind, known]

theorem skip_blank_alike {stop : Char → Bool} (rest rest' : List Char)
    (skipped : skipBlank rest = rest) (alike : GoesOn stop rest rest')
    (solid : ∀ c, stop c → ¬ Text.isBlank c) : skipBlank rest' = rest' := by
  cases rest with
  | nil =>
      cases rest' with
      | nil => rfl
      | cons d tail => exact skip_blank_cons d tail (solid d alike)
  | cons c rest =>
      obtain ⟨tail, rfl⟩ := alike.cons
      exact skip_blank_cons c tail (skip_blank_head c _ rest skipped)

theorem contains_argument_carries : Carries never containsArgument containsArgument := by
  intro cs text rest read
  cases cs with
  | nil => cases read
  | cons c cs =>
      by_cases quote : isQuote c
      · rw [containsArgument, if_pos quote] at read
        obtain ⟨⟨text, middle⟩, quoted, made⟩ := ok_of_map read
        obtain ⟨rfl, rfl⟩ := Prod.mk.inj made
        obtain ⟨front, split, carried⟩ := quoted_chars_carries c never cs text middle quoted
        obtain ⟨blanks, splitBlanks, blank⟩ := skip_blank_split middle
        refine ⟨c :: front ++ blanks, ?_, fun rest' alike => ?_⟩
        · rw [split, List.append_assoc, ← splitBlanks, List.cons_append]
        · have behind : GoesOn never middle (blanks ++ rest') := by
            rw [splitBlanks]
            exact alike.append blanks
          have stays : skipBlank (blanks ++ rest') = rest' := by
            rw [skip_blank_append blanks rest' blank]
            exact skip_blank_alike _ rest' (List.dropWhile_idempotent _ _) alike nofun
          rw [List.cons_append, List.cons_append, List.append_assoc, containsArgument,
            if_pos quote, carried _ behind]
          exact congrArg (fun tail => Except.ok (text, tail)) stays
      · rw [containsArgument, if_neg quote] at read
        obtain ⟨⟨raw, rest⟩, bare, made⟩ := ok_of_map read
        obtain ⟨rfl, rfl⟩ := Prod.mk.inj made
        obtain ⟨front, split, carried⟩ := until_paren_carries never (c :: cs) raw rest bare
        refine ⟨front, split, fun rest' alike => ?_⟩
        obtain ⟨tail, begun⟩ := (split ▸ alike.append front : GoesOn never (c :: cs) _).cons
        rw [begun, containsArgument, if_neg quote, ← begun, carried rest' alike]
        rfl

end DomQuery.Selector
