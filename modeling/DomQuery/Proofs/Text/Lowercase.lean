import DomQuery.Text.Basic
import DomQuery.Text.Lowercase
import Mathlib.Data.List.Infix

set_option autoImplicit false

namespace DomQuery.Text

def smallForm (before after : List Char) (c : Char) : List Char :=
  if c = 'Σ' then [if meetsLetter before && !meetsLetter after then 'ς' else 'σ']
  else lowerLetter c

def lowerAmid (before after : List Char) : List Char → List Char
  | [] => []
  | c :: cs => smallForm before (cs ++ after) c ++ lowerAmid (c :: before) after cs

theorem lower_from_eq (before cs : List Char) : lowerFrom before cs = lowerAmid before [] cs := by
  induction cs generalizing before with
  | nil => rfl
  | cons c cs ih => simp [lowerFrom, lowerAmid, smallForm, ih]

theorem lower_eq (cs : List Char) : lower cs = lowerAmid [] [] cs := lower_from_eq [] cs

theorem lower_amid_append (before after front back : List Char) :
    lowerAmid before after (front ++ back) =
      lowerAmid before (back ++ after) front ++ lowerAmid (front.reverse ++ before) after back := by
  induction front generalizing before with
  | nil => rfl
  | cons c front ih => simp [lowerAmid, ih]

theorem lower_letter_some (c : Char) : lowerLetter c ≠ [] := by
  unfold lowerLetter
  split
  · simp
  · split <;> simp

theorem lower_amid_nil_iff (before after cs : List Char) :
    lowerAmid before after cs = [] ↔ cs = [] := by
  cases cs with
  | nil => simp [lowerAmid]
  | cons c cs =>
      have some : smallForm before (cs ++ after) c ≠ [] := by
        unfold smallForm
        split
        · simp
        · exact lower_letter_some c
      simp [lowerAmid, some]

theorem lower_nil_iff (cs : List Char) : lower cs = [] ↔ cs = [] := by
  rw [lower_eq, lower_amid_nil_iff]

theorem sigma_not_passed : caseIgnorables.has 'Σ' = false := by decide +kernel

theorem sigma_has_case : casedLetters.has 'Σ' = true := by decide +kernel

theorem meets_letter_cons (c : Char) (cs : List Char) (stops : caseIgnorables.has c = false) :
    meetsLetter (c :: cs) = casedLetters.has c := by
  simp [meetsLetter, stops]

theorem meets_letter_append (front back : List Char) : meetsLetter (front ++ back) =
    if front.all caseIgnorables.has then meetsLetter back else meetsLetter front := by
  induction front with
  | nil => simp
  | cons c front ih =>
      cases passes : caseIgnorables.has c with
      | true =>
          have skip (cs : List Char) : meetsLetter (c :: cs) = meetsLetter cs := by
            simp [meetsLetter, passes]
          simp [skip, ih, passes]
      | false => simp [meets_letter_cons c _ passes, passes]

theorem meets_no_letter_of_passed (cs : List Char) (passed : cs.all caseIgnorables.has) :
    meetsLetter cs = false := by
  have none := meets_letter_append cs []
  rw [if_pos passed, List.append_nil] at none
  exact none

theorem lower_amid_congr (before after before' after' cs : List Char)
    (alike : ∀ front back, cs = front ++ 'Σ' :: back →
      (meetsLetter (front.reverse ++ before) && !meetsLetter (back ++ after)) =
        (meetsLetter (front.reverse ++ before') && !meetsLetter (back ++ after'))) :
    lowerAmid before after cs = lowerAmid before' after' cs := by
  induction cs generalizing before before' with
  | nil => rfl
  | cons c cs ih =>
      have first : smallForm before (cs ++ after) c = smallForm before' (cs ++ after') c := by
        by_cases sigma : c = 'Σ'
        · subst sigma
          have here := alike [] cs rfl
          simp only [List.reverse_nil, List.nil_append] at here
          simp only [smallForm, here]
        · simp [smallForm, sigma]
      have others := ih (c :: before) (c :: before') fun front back split => by
        have later := alike (c :: front) back (by rw [split]; rfl)
        simpa using later
      rw [lowerAmid, lowerAmid, first, others]

theorem lower_amid_plain (before after before' after' cs : List Char) (plain : 'Σ' ∉ cs) :
    lowerAmid before after cs = lowerAmid before' after' cs := by
  apply lower_amid_congr
  rintro front back rfl
  simp at plain

-- Of the surroundings it only matters whether a letter is met in them.
theorem lower_amid_of_meets (before after before' after' cs : List Char)
    (left : meetsLetter before = meetsLetter before')
    (right : meetsLetter after = meetsLetter after') :
    lowerAmid before after cs = lowerAmid before' after' cs := by
  apply lower_amid_congr
  intro front back _
  simp only [meets_letter_append, left, right]

theorem meets_sigma (cs : List Char) : meetsLetter ('Σ' :: cs) = true := by
  rw [meets_letter_cons 'Σ' cs sigma_not_passed, sigma_has_case]

theorem lower_at_sigma (before after front back : List Char) :
    lowerAmid before after (front ++ 'Σ' :: back) =
      lowerAmid before ['Σ'] front ++
        (if meetsLetter (front.reverse ++ before) && !meetsLetter (back ++ after) then 'ς' else 'σ') ::
          lowerAmid ['Σ'] after back := by
  have first : lowerAmid before ('Σ' :: (back ++ after)) front = lowerAmid before ['Σ'] front :=
    lower_amid_of_meets _ _ _ _ _ rfl ((meets_sigma _).trans (meets_sigma _).symm)
  have last : lowerAmid ('Σ' :: (front.reverse ++ before)) after back = lowerAmid ['Σ'] after back :=
    lower_amid_of_meets _ _ _ _ _ ((meets_sigma _).trans (meets_sigma _).symm) rfl
  simp [lower_amid_append, lowerAmid, smallForm, first, last]

-- What stands behind a capital sigma that only passed characters stand in front of.
def leadingSigma? (cs : List Char) : Option (List Char) :=
  match cs.dropWhile caseIgnorables.has with
  | [] => none
  | c :: rest => if c = 'Σ' then some rest else none

-- Alone the part begins with a sigma that is not final; behind a letter it would be.
def opensLeft (cs : List Char) : Bool := (leadingSigma? cs).any fun after => !meetsLetter after

-- Alone the part ends with a final sigma; in front of a letter it would not be final.
def opensRight (cs : List Char) : Bool := (leadingSigma? cs.reverse).any meetsLetter

theorem leading_sigma_iff (cs rest : List Char) : leadingSigma? cs = some rest ↔
    ∃ front, cs = front ++ 'Σ' :: rest ∧ front.all caseIgnorables.has := by
  constructor
  · intro leading
    unfold leadingSigma? at leading
    split at leading
    · cases leading
    · next c tail stopped =>
        split at leading
        · next sigma =>
            cases leading
            subst sigma
            refine ⟨cs.takeWhile caseIgnorables.has, ?_, List.all_takeWhile⟩
            rw [← stopped, List.takeWhile_append_dropWhile]
        · cases leading
  · rintro ⟨front, rfl, passed⟩
    have stopped : (front ++ 'Σ' :: rest).dropWhile caseIgnorables.has = 'Σ' :: rest := by
      rw [List.dropWhile_append_of_pos (List.all_eq_true.mp passed),
        List.dropWhile_cons_of_neg (by simp [sigma_not_passed])]
    simp [leadingSigma?, stopped]

theorem opens_left_iff (cs : List Char) : opensLeft cs ↔
    ∃ front back, cs = front ++ 'Σ' :: back ∧ front.all caseIgnorables.has ∧
      meetsLetter back = false := by
  simp only [opensLeft, Option.any_eq_true, leading_sigma_iff, Bool.not_eq_true']
  constructor
  · rintro ⟨back, ⟨front, split, passed⟩, none⟩
    exact ⟨front, back, split, passed, none⟩
  · rintro ⟨front, back, split, passed, none⟩
    exact ⟨back, ⟨front, split, passed⟩, none⟩

theorem opens_right_iff (cs : List Char) : opensRight cs ↔
    ∃ front back, cs = front ++ 'Σ' :: back ∧ back.all caseIgnorables.has ∧
      meetsLetter front.reverse := by
  simp only [opensRight, Option.any_eq_true, leading_sigma_iff]
  constructor
  · rintro ⟨before, ⟨back, split, passed⟩, letter⟩
    have whole := congrArg List.reverse split
    exact ⟨before.reverse, back.reverse, by simpa using whole, by simpa using passed,
      by simpa using letter⟩
  · rintro ⟨front, back, rfl, passed, letter⟩
    exact ⟨front.reverse, ⟨back.reverse, by simp, by simpa using passed⟩, letter⟩

-- Where letters stand beside the part, its sigmas must not hang on them.
theorem lower_amid_settled (before after cs : List Char)
    (left : meetsLetter before → ¬ opensLeft cs) (right : meetsLetter after → ¬ opensRight cs) :
    lowerAmid before after cs = lower cs := by
  rw [lower_eq]
  apply lower_amid_congr
  intro front back split
  have closedLeft (passed : front.all caseIgnorables.has) (letter : meetsLetter before) :
      meetsLetter back := by
    by_contra none
    exact left letter ((opens_left_iff cs).mpr ⟨front, back, split, passed, by simpa using none⟩)
  have closedRight (passed : back.all caseIgnorables.has) (letter : meetsLetter after) :
      meetsLetter front.reverse = false := by
    by_contra found
    exact right letter ((opens_right_iff cs).mpr ⟨front, back, split, passed, by simpa using found⟩)
  have nothing : meetsLetter [] = false := rfl
  simp only [meets_letter_append, List.all_reverse, nothing]
  cases passedFront : front.all caseIgnorables.has with
  | true =>
      cases letter : meetsLetter before with
      | false => simp
      | true =>
          have met := closedLeft passedFront letter
          cases passedBack : back.all caseIgnorables.has with
          | true => simp [meets_no_letter_of_passed back passedBack] at met
          | false => simp [met]
  | false =>
      cases passedBack : back.all caseIgnorables.has with
      | true =>
          cases letter : meetsLetter after with
          | false => simp
          | true => simp [closedRight passedBack letter]
      | false => simp

theorem lower_around (before cs after : List Char) : lower (before ++ (cs ++ after)) =
    lowerAmid [] (cs ++ after) before ++
      (lowerAmid before.reverse after cs ++ lowerAmid (cs.reverse ++ before.reverse) [] after) := by
  simp [lower_eq, lower_amid_append]

theorem lower_prefix (cs after : List Char) (right : meetsLetter after → ¬ opensRight cs) :
    lower cs <+: lower (cs ++ after) := by
  have split := lower_around [] cs after
  rw [List.reverse_nil, lower_amid_settled [] after cs nofun right] at split
  rw [← List.nil_append (cs ++ after), split]
  exact List.prefix_append _ _

theorem lower_suffix (before cs : List Char)
    (left : meetsLetter before.reverse → ¬ opensLeft cs) : lower cs <:+ lower (before ++ cs) := by
  have split := lower_around before cs []
  rw [lower_amid_settled before.reverse [] cs left nofun, List.append_nil] at split
  rw [split]
  simp [lowerAmid]

theorem lower_infix (before cs after : List Char)
    (left : meetsLetter before.reverse → ¬ opensLeft cs)
    (right : meetsLetter after → ¬ opensRight cs) :
    lower cs <:+: lower (before ++ (cs ++ after)) := by
  rw [lower_around, lower_amid_settled before.reverse after cs left right]
  exact ⟨_, _, List.append_assoc _ _ _⟩

structure Parts (c : Char) : Prop where
  stops : caseIgnorables.has c = false
  noLetter : casedLetters.has c = false
  stays : lowerLetter c = [c]

theorem lower_parted (c : Char) (parts : Parts c) (front back : List Char) :
    lower (front ++ c :: back) = lower front ++ c :: lower back := by
  have unmet (cs : List Char) : meetsLetter (c :: cs) = false := by
    rw [meets_letter_cons c cs parts.stops, parts.noLetter]
  have other : c ≠ 'Σ' := by
    rintro rfl
    cases sigma_has_case.symm.trans parts.noLetter
  have first : lowerAmid [] (c :: back) front = lower front :=
    lower_amid_settled _ _ _ nofun (by simp [unmet])
  have last : lowerAmid (c :: front.reverse) [] back = lower back :=
    lower_amid_settled _ _ _ (by simp [unmet]) nofun
  rw [lower_eq, lower_amid_append, List.append_nil, List.append_nil, first, lowerAmid, smallForm,
    if_neg other, parts.stays, last]
  rfl

theorem a_stops : caseIgnorables.has 'a' = false := by decide +kernel

theorem a_has_case : casedLetters.has 'a' = true := by decide +kernel

theorem a_stays : lowerLetter 'a' = ['a'] := by decide +kernel

theorem meets_a (cs : List Char) : meetsLetter ('a' :: cs) = true := by
  rw [meets_letter_cons 'a' cs a_stops, a_has_case]

theorem no_sigma_passed (cs : List Char) (passed : cs.all caseIgnorables.has) : 'Σ' ∉ cs := by
  intro member
  have passes := List.all_eq_true.mp passed 'Σ' member
  rw [sigma_not_passed] at passes
  cases passes

theorem lower_amid_a (before after : List Char) : lowerAmid before after ['a'] = ['a'] := by
  simp [lowerAmid, smallForm, a_stays]

theorem fewer_final (cs : List Char) (opens : opensRight cs) :
    (lower (cs ++ ['a'])).count 'ς' < (lower cs).count 'ς' := by
  obtain ⟨front, back, rfl, passed, letter⟩ := (opens_right_iff cs).mp opens
  have alone := meets_no_letter_of_passed back passed
  have followed : meetsLetter (back ++ ['a']) = true := by
    rw [meets_letter_append, if_pos passed, meets_a]
  have same : lowerAmid ['Σ'] ['a'] back = lowerAmid ['Σ'] [] back :=
    lower_amid_plain _ _ _ _ back (no_sigma_passed back passed)
  have whole : lower (front ++ 'Σ' :: back) =
      lowerAmid [] ['Σ'] front ++ 'ς' :: lowerAmid ['Σ'] [] back := by
    simp [lower_eq, lower_at_sigma, letter, alone]
  have longer : lower ((front ++ 'Σ' :: back) ++ ['a']) =
      (lowerAmid [] ['Σ'] front ++ 'σ' :: lowerAmid ['Σ'] [] back) ++ ['a'] := by
    rw [lower_eq, lower_amid_append, lower_amid_a, List.append_nil, lower_at_sigma, followed, same]
    simp
  rw [whole, longer]
  simp [List.count_append]

theorem fewer_inner (cs : List Char) (opens : opensLeft cs) :
    (lower ('a' :: cs)).count 'σ' < (lower cs).count 'σ' := by
  obtain ⟨front, back, rfl, passed, none⟩ := (opens_left_iff cs).mp opens
  have reversed : front.reverse.all caseIgnorables.has := by simpa using passed
  have alone := meets_no_letter_of_passed front.reverse reversed
  have led : meetsLetter (front.reverse ++ ['a']) = true := by
    rw [meets_letter_append, if_pos reversed, meets_a]
  have same : lowerAmid ['a'] ['Σ'] front = lowerAmid [] ['Σ'] front :=
    lower_amid_plain _ _ _ _ front (no_sigma_passed front passed)
  have whole : lower (front ++ 'Σ' :: back) =
      lowerAmid [] ['Σ'] front ++ 'σ' :: lowerAmid ['Σ'] [] back := by
    simp [lower_eq, lower_at_sigma, alone]
  have longer : lower ('a' :: (front ++ 'Σ' :: back)) =
      ['a'] ++ (lowerAmid [] ['Σ'] front ++ 'ς' :: lowerAmid ['Σ'] [] back) := by
    rw [lower_eq, ← List.singleton_append, lower_amid_append, lower_amid_a]
    simp [lower_at_sigma, led, none, same]
  rw [whole, longer]
  simp [List.count_append]

def blankPoints : List Nat :=
  List.range' 0x9 5 ++ List.range' 0x2000 11 ++
    [0x20, 0x85, 0xA0, 0x1680, 0x2028, 0x2029, 0x202F, 0x205F, 0x3000]

theorem is_blank_iff (c : Char) : isBlank c ↔ c.toNat ∈ blankPoints := by
  simp [isBlank, blankPoints, List.mem_range'_1]
  omega

theorem blank_points_part : (blankPoints.all fun n => !caseIgnorables.has (.ofNat n) &&
    !casedLetters.has (.ofNat n) && lowerLetter (.ofNat n) == [.ofNat n]) = true := by
  decide +kernel

theorem blank_parts (c : Char) (blank : isBlank c) : Parts c := by
  have facts := List.all_eq_true.mp blank_points_part c.toNat ((is_blank_iff c).mp blank)
  simp only [Char.ofNat_toNat, Bool.and_eq_true, Bool.not_eq_true', beq_iff_eq] at facts
  exact ⟨facts.1.1, facts.1.2, facts.2⟩

theorem runs_miss_blanks : (lowerRuns.all fun run => blankPoints.all fun n =>
    decide ((n : Int) < run.first + run.offset ∨ run.last + run.offset < n)) = true := by
  decide +kernel

theorem solid_letter (c : Char) (solid : ¬ isBlank c) : ∀ d ∈ lowerLetter c, ¬ isBlank d := by
  intro d member
  unfold lowerLetter at member
  split at member
  · rcases List.mem_pair.mp member with rfl | rfl <;> decide
  · split at member
    · next run found =>
        obtain rfl := List.mem_singleton.mp member
        have covers := List.find?_some found
        simp only [CaseRun.covers, Bool.and_eq_true, decide_eq_true_eq] at covers
        have missed := List.all_eq_true.mp runs_miss_blanks run (List.mem_of_find?_eq_some found)
        have zero : 0 ∉ blankPoints := by decide
        rw [is_blank_iff]
        by_cases valid : (c.toNat + run.offset).toNat.isValidChar
        · have same : (Char.ofNat (c.toNat + run.offset).toNat).toNat = (c.toNat + run.offset).toNat := by
            rw [Char.ofNat, dif_pos valid]
            rfl
          rw [same]
          intro blank
          have nonzero := ne_of_mem_of_not_mem blank zero
          have apart := List.all_eq_true.mp missed _ blank
          rw [decide_eq_true_eq] at apart
          omega
        · rw [Char.ofNat, dif_neg valid]
          exact zero
    · rwa [List.mem_singleton.mp member]

theorem solid_small (before after cs : List Char) (solid : ∀ c ∈ cs, ¬ isBlank c) :
    ∀ d ∈ lowerAmid before after cs, ¬ isBlank d := by
  induction cs generalizing before with
  | nil => simp [lowerAmid]
  | cons c cs ih =>
      obtain ⟨first, others⟩ := List.forall_mem_cons.mp solid
      have letter : ∀ d ∈ smallForm before (cs ++ after) c, ¬ isBlank d := by
        unfold smallForm
        split
        · split <;> simp <;> decide
        · exact solid_letter c first
      intro d member
      rcases List.mem_append.mp member with here | later
      · exact letter d here
      · exact ih (c :: before) others d later

theorem words_parted (c : Char) (blank : isBlank c) (front back : List Char) :
    words (front ++ c :: back) = words front ++ words back := by
  rw [words, List.splitOnP_append_cons front back blank, List.filter_append]
  rfl

theorem words_solid (cs : List Char) (solid : ∀ c ∈ cs, ¬ isBlank c) :
    words cs = if cs = [] then [] else [cs] := by
  rw [words, List.splitOnP_eq_singleton (by simpa using solid)]
  cases cs <;> simp

theorem words_lower (cs : List Char) : words (lower cs) = (words cs).map lower := by
  by_cases solid : ∀ c ∈ cs, ¬ isBlank c
  · have low := solid_small [] [] cs solid
    rw [← lower_eq] at low
    rw [words_solid cs solid, words_solid (lower cs) low]
    by_cases empty : cs = []
    · simp [empty, lower, lowerFrom]
    · have some : lower cs ≠ [] := (lower_nil_iff cs).not.mpr empty
      simp [empty, some]
  · simp only [not_forall, not_not] at solid
    obtain ⟨c, member, blank⟩ := solid
    obtain ⟨front, back, rfl⟩ := List.append_of_mem member
    rw [lower_parted c (blank_parts c blank), words_parted c blank, words_parted c blank,
      List.map_append, words_lower front, words_lower back]
termination_by cs.length

end DomQuery.Text
