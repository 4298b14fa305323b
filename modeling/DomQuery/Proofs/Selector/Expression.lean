import DomQuery.Proofs.Selector.Written

set_option autoImplicit false

namespace DomQuery.Selector.Nth

structure Digits (ds : List Char) : Prop where
  some : ds ≠ []
  each : ∀ c ∈ ds, c.isDigit

def decimal (ds : List Char) : Nat := Nat.ofDigitChars 10 ds 0

inductive Addend : List Char → Int → Prop where
  | plus (ds : List Char) (digits : Digits ds) : Addend ('+' :: ds) (decimal ds)
  | minus (ds : List Char) (digits : Digits ds) : Addend ('-' :: ds) (-decimal ds)

inductive Number (cs : List Char) : Int → Prop where
  | digits (digits : Digits cs) : Number cs (decimal cs)
  | addend (n : Int) (addend : Addend cs n) : Number cs n

-- Where no digits stand in front of `n`, they count as one.
inductive Factor : List Char → Int → Prop where
  | number (cs : List Char) (n : Int) (number : Number cs n) : Factor cs n
  | one : Factor [] 1
  | plusOne : Factor ['+'] 1
  | minusOne : Factor ['-'] (-1)

inductive Term : List Char → Int → Prop where
  | absent : Term [] 0
  | addend (cs : List Char) (n : Int) (addend : Addend cs n) : Term cs n

inductive Counted (Behind : List Char → Int → Prop) : List Char → Int → Int → Prop where
  | steps (front back : List Char) (a b : Int) (factor : Factor front a) (term : Behind back b) :
      Counted Behind (front ++ 'n' :: back) a b

inductive Expression : List Char → Int → Int → Prop where
  | odd : Expression ['o', 'd', 'd'] 2 1
  | even : Expression ['e', 'v', 'e', 'n'] 2 0
  | position (cs : List Char) (n : Int) (number : Number cs n) : Expression cs 0 n
  | counted (cs : List Char) (a b : Int) (counted : Counted Term cs a b) : Expression cs a b

-- Outside the grammar: plus signs in front of a number that has a sign.
inductive Heaped : List Char → Int → Prop where
  | last (cs : List Char) (n : Int) (addend : Addend cs n) : Heaped ('+' :: cs) n
  | more (cs : List Char) (n : Int) (heaped : Heaped cs n) : Heaped ('+' :: cs) n

theorem digit_unsigned (c : Char) (digit : c.isDigit) : c ≠ '+' ∧ c ≠ '-' := by
  constructor
  · rintro rfl
    cases digit
  · rintro rfl
    cases digit

theorem Digits.unsigned {c : Char} {ds : List Char} (digits : Digits (c :: ds)) :
    c ≠ '+' ∧ c ≠ '-' :=
  digit_unsigned c (digits.each c List.mem_cons_self)

@[simp] theorem no_digits : ¬ Digits [] := fun digits => digits.some rfl

@[simp] theorem no_digits_plus (cs : List Char) : ¬ Digits ('+' :: cs) :=
  fun digits => digits.unsigned.1 rfl

@[simp] theorem no_digits_minus (cs : List Char) : ¬ Digits ('-' :: cs) :=
  fun digits => digits.unsigned.2 rfl

@[simp] theorem addend_plus_iff (cs : List Char) (n : Int) :
    Addend ('+' :: cs) n ↔ Digits cs ∧ decimal cs = n := by
  constructor
  · intro addend
    cases addend with
    | plus _ digits => exact ⟨digits, rfl⟩
  · rintro ⟨digits, rfl⟩
    exact .plus cs digits

@[simp] theorem addend_minus_iff (cs : List Char) (n : Int) :
    Addend ('-' :: cs) n ↔ Digits cs ∧ -decimal cs = n := by
  constructor
  · intro addend
    cases addend with
    | minus _ digits => exact ⟨digits, rfl⟩
  · rintro ⟨digits, rfl⟩
    exact .minus cs digits

theorem number_iff (cs : List Char) (n : Int) :
    Number cs n ↔ Digits cs ∧ decimal cs = n ∨ Addend cs n := by
  constructor
  · intro number
    cases number with
    | digits digits => exact Or.inl ⟨digits, rfl⟩
    | addend _ addend => exact Or.inr addend
  · rintro (⟨digits, rfl⟩ | addend)
    · exact .digits digits
    · exact .addend n addend

theorem Addend.begins {cs : List Char} {n : Int} (addend : Addend cs n) :
    ∃ sign ds, cs = sign :: ds ∧ (sign = '+' ∨ sign = '-') ∧ Digits ds := by
  cases addend with
  | plus ds digits => exact ⟨'+', ds, rfl, Or.inl rfl, digits⟩
  | minus ds digits => exact ⟨'-', ds, rfl, Or.inr rfl, digits⟩

theorem Heaped.begins {cs : List Char} {n : Int} (heaped : Heaped cs n) :
    ∃ sign rest, cs = '+' :: sign :: rest ∧ (sign = '+' ∨ sign = '-') := by
  cases heaped with
  | last rest _ addend =>
      obtain ⟨sign, ds, rfl, signed, _⟩ := addend.begins
      exact ⟨sign, ds, rfl, signed⟩
  | more rest _ heaped =>
      cases heaped with
      | last tail _ _ => exact ⟨'+', tail, rfl, Or.inl rfl⟩
      | more tail _ _ => exact ⟨'+', tail, rfl, Or.inl rfl⟩

theorem heaped_plus_iff (cs : List Char) (n : Int) :
    Heaped ('+' :: cs) n ↔ Addend cs n ∨ Heaped cs n := by
  constructor
  · intro heaped
    cases heaped with
    | last _ _ addend => exact Or.inl addend
    | more _ _ heaped => exact Or.inr heaped
  · rintro (addend | heaped)
    · exact .last cs n addend
    · exact .more cs n heaped

theorem term_not_heaped (cs : List Char) (m n : Int) (term : Term cs m) : ¬ Heaped cs n := by
  intro heaped
  obtain ⟨second, rest, rfl, signed⟩ := heaped.begins
  cases term with
  | addend _ _ addend =>
      obtain ⟨sign, ds, same, _, digits⟩ := addend.begins
      rw [← (List.cons.inj same).2] at digits
      have unsigned := digits.unsigned
      tauto

def isNumeric (c : Char) : Bool := c.isDigit || c = '+' || c = '-'

theorem Digits.numeric {ds : List Char} (digits : Digits ds) : ∀ c ∈ ds, isNumeric c :=
  fun c member => by simp [isNumeric, digits.each c member]

theorem Number.numeric {cs : List Char} {n : Int} (number : Number cs n) :
    ∀ c ∈ cs, isNumeric c := by
  cases number with
  | digits digits => exact digits.numeric
  | addend _ addend =>
      obtain ⟨sign, ds, rfl, signed, digits⟩ := addend.begins
      rw [List.forall_mem_cons]
      refine ⟨?_, digits.numeric⟩
      rcases signed with rfl | rfl <;> rfl

theorem Factor.numeric {cs : List Char} {n : Int} (factor : Factor cs n) :
    ∀ c ∈ cs, isNumeric c := by
  cases factor with
  | number _ _ number => exact number.numeric
  | one | plusOne | minusOne => simp [isNumeric]

theorem numeric_before_n (cs : List Char) (numeric : ∀ c ∈ cs, isNumeric c) :
    ∀ c ∈ cs, decide (c ≠ 'n') = true := by
  intro c member
  rw [decide_eq_true_eq]
  rintro rfl
  cases numeric 'n' member

theorem counted_iff (Behind : List Char → Int → Prop) (cs : List Char) (a b : Int) :
    Counted Behind cs a b ↔ ∃ back, cs.dropWhile (· ≠ 'n') = 'n' :: back ∧
      Factor (cs.takeWhile (· ≠ 'n')) a ∧ Behind back b := by
  constructor
  · rintro ⟨front, back, _, _, factor, term⟩
    have before := numeric_before_n front factor.numeric
    refine ⟨back, ?_, ?_, term⟩
    · rw [List.dropWhile_append_of_pos before]
      rfl
    · rw [List.takeWhile_append_of_pos before]
      simpa using factor
  · rintro ⟨back, split, factor, term⟩
    have whole := List.takeWhile_append_dropWhile (p := (· ≠ 'n')) (l := cs)
    rw [split] at whole
    rw [← whole]
    exact .steps _ back a b factor term

theorem number_not_counted (Behind : List Char → Int → Prop) (cs : List Char) (n a b : Int)
    (number : Number cs n) : ¬ Counted Behind cs a b := by
  have before := numeric_before_n cs number.numeric
  rw [counted_iff, List.dropWhile_eq_nil_iff.mpr before]
  simp

theorem expression_not_heaped (cs : List Char) (a b a' b' : Int) (grammar : Expression cs a b) :
    ¬ Counted Heaped cs a' b' := by
  rw [counted_iff]
  rintro ⟨back, split, factor, heaped⟩
  cases grammar with
  | odd => cases split
  | even =>
      cases split
      cases heaped
  | position _ _ number =>
      exact number_not_counted Heaped cs b a' b' number ((counted_iff _ _ _ _).mpr ⟨back, split, factor, heaped⟩)
  | counted _ _ _ counted =>
      obtain ⟨other, same, _, term⟩ := (counted_iff _ _ _ _).mp counted
      rw [split] at same
      cases same
      exact term_not_heaped back b b' term heaped

theorem digits_value_iff (ds : List Char) (n : Nat) :
    digitsValue? ds = some n ↔ Digits ds ∧ decimal ds = n := by
  by_cases digits : Digits ds
  · have tested : (ds ≠ [] && ds.all Char.isDigit) = true := by
      simpa using ⟨digits.some, digits.each⟩
    rw [digitsValue?, if_pos tested]
    simp [digits, decimal, Nat.ofDigitChars]
  · have failed : ¬ (ds ≠ [] && ds.all Char.isDigit) = true := by
      intro tested
      simp only [Bool.and_eq_true, decide_eq_true_eq, List.all_eq_true] at tested
      exact digits ⟨tested.1, tested.2⟩
    rw [digitsValue?, if_neg failed]
    simp [digits]

theorem to_int32_iff (n : Int) (i : Int32) : toInt32? n = some i ↔ n = i.toInt := by
  constructor
  · intro read
    simp only [toInt32?] at read
    split at read
    · next fits =>
        rw [← Option.some.inj read]
        exact (Int32.toInt_ofInt_of_le fits.1 (Int.lt_of_le_of_lt fits.2 (by decide))).symm
    · cases read
  · rintro rfl
    exact to_int32 i

theorem value_bind_iff (ds : List Char) (sign : Nat → Int) (i : Int32) :
    ((digitsValue? ds).bind fun n => toInt32? (sign n)) = some i ↔
      Digits ds ∧ sign (decimal ds) = i.toInt := by
  simp only [Option.bind_eq_some_iff, digits_value_iff, to_int32_iff]
  constructor
  · rintro ⟨n, ⟨digits, rfl⟩, value⟩
    exact ⟨digits, value⟩
  · rintro ⟨digits, value⟩
    exact ⟨_, ⟨digits, rfl⟩, value⟩

theorem read_int_iff (cs : List Char) (i : Int32) : readInt? cs = some i ↔ Number cs i.toInt := by
  rw [number_iff]
  unfold readInt?
  split
  · next ds =>
      rw [value_bind_iff, addend_plus_iff]
      simp
  · next ds =>
      rw [value_bind_iff, addend_minus_iff]
      simp
  · next plus minus =>
      have none : ¬ Addend cs i.toInt := fun addend => by
        obtain ⟨sign, ds, rfl, is, _⟩ := addend.begins
        rcases is with rfl | rfl
        · exact plus ds rfl
        · exact minus ds rfl
      rw [value_bind_iff]
      simp [none]

theorem factor_iff (cs : List Char) (n : Int) : Factor cs n ↔
    Number cs n ∨ cs = [] ∧ n = 1 ∨ cs = ['+'] ∧ n = 1 ∨ cs = ['-'] ∧ n = -1 := by
  constructor
  · intro factor
    cases factor with
    | number _ _ number => exact Or.inl number
    | one | plusOne | minusOne => simp
  · rintro (number | ⟨rfl, rfl⟩ | ⟨rfl, rfl⟩ | ⟨rfl, rfl⟩)
    · exact .number cs n number
    · exact .one
    · exact .plusOne
    · exact .minusOne

theorem read_factor_iff (cs : List Char) (i : Int32) :
    readFactor? cs = some i ↔ Factor cs i.toInt := by
  have value (n : Int32) : some n = some i ↔ i.toInt = n.toInt := by
    rw [Option.some_inj, Int32.toInt_inj, eq_comm]
  have empty (n : Int) : ¬ Addend [] n := nofun
  rw [factor_iff, number_iff]
  unfold readFactor?
  split
  · simp [value, empty]
  · simp [value]
  · simp [value]
  · next nothing plus minus =>
      have longer : cs ≠ [] ∧ cs ≠ ['+'] ∧ cs ≠ ['-'] := ⟨nothing, plus, minus⟩
      rw [read_int_iff, number_iff]
      simp [longer]

theorem pluses_iff (cs : List Char) (n : Int) :
    Number (cs.dropWhile (· = '+')) n ↔ Addend ('+' :: cs) n ∨ Heaped ('+' :: cs) n := by
  induction cs with
  | nil =>
      have none : ¬ Addend [] n ∧ ¬ Heaped [] n := ⟨nofun, nofun⟩
      simp [heaped_plus_iff, number_iff, none]
  | cons c cs ih =>
      by_cases plus : c = '+'
      · subst plus
        rw [List.dropWhile_cons_of_pos (by simp), ih, heaped_plus_iff ('+' :: cs)]
        simp
      · have none : ¬ Heaped (c :: cs) n := fun heaped => by
          obtain ⟨_, _, same, _⟩ := heaped.begins
          exact plus (List.cons.inj same).1
        rw [List.dropWhile_cons_of_neg (by simpa using plus), heaped_plus_iff, number_iff,
          addend_plus_iff]
        simp [none]

theorem term_iff (cs : List Char) (n : Int) : Term cs n ↔ cs = [] ∧ n = 0 ∨ Addend cs n := by
  constructor
  · intro term
    cases term with
    | absent => exact Or.inl ⟨rfl, rfl⟩
    | addend _ _ addend => exact Or.inr addend
  · rintro (⟨rfl, rfl⟩ | addend)
    · exact .absent
    · exact .addend cs n addend

theorem read_term_iff (cs : List Char) (i : Int32) :
    readTerm? cs = some i ↔ Term cs i.toInt ∨ Heaped cs i.toInt := by
  rw [term_iff]
  unfold readTerm?
  split
  · have none : ¬ Addend [] i.toInt ∧ ¬ Heaped [] i.toInt := ⟨nofun, nofun⟩
    have zero : i = 0 ↔ i.toInt = 0 := Int32.toInt_inj.symm
    simp [none, ← zero, eq_comm]
  · next ds =>
      have none : ¬ Heaped ('-' :: ds) i.toInt := nofun
      rw [read_int_iff, number_iff]
      simp [none]
  · next rest =>
      rw [read_int_iff, pluses_iff]
      simp
  · next nothing minus plus =>
      have longer : cs ≠ [] := nothing
      have none : ¬ Addend cs i.toInt ∧ ¬ Heaped cs i.toInt := by
        refine ⟨fun addend => ?_, fun heaped => ?_⟩
        · obtain ⟨sign, ds, rfl, is, _⟩ := addend.begins
          rcases is with rfl | rfl
          · exact plus ds rfl
          · exact minus ds rfl
        · obtain ⟨second, rest, rfl, _⟩ := heaped.begins
          exact plus _ rfl
      simp [longer, none]

theorem read_parts_iff (cs back : List Char) (e : Nth)
    (split : cs.dropWhile (· ≠ 'n') = 'n' :: back) :
    ((readFactor? (cs.takeWhile (· ≠ 'n'))).bind fun a => (readTerm? back).map fun b => ⟨a, b⟩) =
        some e ↔
      Counted Term cs e.a.toInt e.b.toInt ∨ Counted Heaped cs e.a.toInt e.b.toInt := by
  simp only [counted_iff, split, Option.bind_eq_some_iff, Option.map_eq_some_iff, read_factor_iff,
    read_term_iff]
  constructor
  · rintro ⟨a, factor, b, term | heaped, rfl⟩
    · exact Or.inl ⟨back, rfl, factor, term⟩
    · exact Or.inr ⟨back, rfl, factor, heaped⟩
  · rintro (⟨_, same, factor, term⟩ | ⟨_, same, factor, heaped⟩)
    · cases same
      exact ⟨e.a, factor, e.b, Or.inl term, rfl⟩
    · cases same
      exact ⟨e.a, factor, e.b, Or.inr heaped, rfl⟩

theorem expression_iff (cs : List Char) (a b : Int) : Expression cs a b ↔
    cs = ['o', 'd', 'd'] ∧ a = 2 ∧ b = 1 ∨ cs = ['e', 'v', 'e', 'n'] ∧ a = 2 ∧ b = 0 ∨
      a = 0 ∧ Number cs b ∨ Counted Term cs a b := by
  constructor
  · intro grammar
    cases grammar with
    | odd => simp
    | even => simp
    | position _ _ number => simp [number]
    | counted _ _ _ counted => simp [counted]
  · rintro (⟨rfl, rfl, rfl⟩ | ⟨rfl, rfl, rfl⟩ | ⟨rfl, number⟩ | counted)
    · exact .odd
    · exact .even
    · exact .position cs b number
    · exact .counted cs a b counted

theorem word_not_read (c : Char) (cs : List Char) (letter : isNumeric c = false) (other : c ≠ 'n') :
    (∀ n, ¬ Number (c :: cs) n) ∧ ∀ Behind a b, ¬ Counted Behind (c :: cs) a b := by
  constructor
  · intro n number
    simpa [letter] using number.numeric c List.mem_cons_self
  · intro Behind a b
    rw [counted_iff, List.takeWhile_cons_of_pos (by simpa using other)]
    rintro ⟨_, _, factor, _⟩
    simpa [letter] using factor.numeric c List.mem_cons_self

theorem read_stripped_iff (cs : List Char) (e : Nth) : readStripped? cs = some e ↔
    Expression cs e.a.toInt e.b.toInt ∨ Counted Heaped cs e.a.toInt e.b.toInt := by
  have value (a b : Int32) : some (⟨a, b⟩ : Nth) = some e ↔
      e.a.toInt = a.toInt ∧ e.b.toInt = b.toInt := by
    obtain ⟨x, y⟩ := e
    simp [Int32.toInt_inj, eq_comm]
  rw [expression_iff, readStripped?]
  by_cases odd : cs = ['o', 'd', 'd']
  · have word := word_not_read 'o' ['d', 'd'] rfl (by decide)
    rw [if_pos odd, value]
    subst odd
    simp [word]
  by_cases even : cs = ['e', 'v', 'e', 'n']
  · have word := word_not_read 'e' ['v', 'e', 'n'] rfl (by decide)
    rw [if_neg odd, if_pos even, value]
    subst even
    simp [word]
  rw [if_neg odd, if_neg even]
  cases read : readInt? cs with
  | some b =>
      have number := (read_int_iff cs b).mp read
      have same : Number cs e.b.toInt ↔ e.b.toInt = b.toInt := by
        rw [← read_int_iff, read, Option.some_inj, Int32.toInt_inj, eq_comm]
      simp [value, odd, even, same, number_not_counted _ _ _ _ _ number]
  | none =>
      have absent : ¬ Number cs e.b.toInt := by simp [← read_int_iff, read]
      cases split : cs.dropWhile (· ≠ 'n') with
      | nil =>
          have whole (Behind : List Char → Int → Prop) (a b : Int) : ¬ Counted Behind cs a b := by
            rw [counted_iff, split]
            rintro ⟨_, same, _⟩
            cases same
          simp [odd, even, absent, whole]
      | cons n back =>
          have stopped := List.head?_dropWhile_not (· ≠ 'n') cs
          rw [split] at stopped
          obtain rfl : n = 'n' := by simpa using stopped
          simp only [odd, even, absent, false_and, and_false, false_or]
          exact read_parts_iff cs back e split

-- Blanks and case count for nothing. What is read beyond the grammar stands outside it, so the grammar
-- tells the whole of what is read exactly where no plus signs are heaped up.
theorem parse_iff_grammar (text : String) :
    (∀ e : Nth, parse? text = some e ↔ Expression (strip text.toList) e.a.toInt e.b.toInt ∨
      Counted Heaped (strip text.toList) e.a.toInt e.b.toInt) ∧
    ((∀ e : Nth, parse? text = some e ↔ Expression (strip text.toList) e.a.toInt e.b.toInt) ↔
      ∀ e : Nth, ¬ Counted Heaped (strip text.toList) e.a.toInt e.b.toInt) := by
  have read (e : Nth) := read_stripped_iff (strip text.toList) e
  refine ⟨read, ?_⟩
  constructor
  · intro exact e heaped
    have grammar := (exact e).mp ((read e).mpr (Or.inr heaped))
    exact expression_not_heaped _ _ _ _ _ grammar heaped
  · intro none e
    simp [parse?, read e, none e]

theorem heaped_sign_read :
    parse? "n + -3" = some ⟨1, -3⟩ ∧ ¬ Expression (strip "n + -3".toList) 1 (-3) := by
  refine ⟨by rfl, fun grammar => ?_⟩
  have digits : Digits ['3'] := ⟨by simp, by simp⟩
  exact expression_not_heaped _ _ _ 1 (-3) grammar
    (.steps [] ['+', '-', '3'] 1 (-3) .one (.last _ _ (.minus ['3'] digits)))

end DomQuery.Selector.Nth
