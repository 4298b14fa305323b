import DomQuery.Selector.Nth
import Mathlib.Data.Int.Init

set_option autoImplicit false

namespace DomQuery.Selector.Nth

-- A step has no answer where the exact one is no word of 64 bits.
def minus? (m n : Int64) : Option Int64 :=
  let exact := m.toInt - n.toInt
  if Int64.minValue.toInt ≤ exact ∧ exact ≤ Int64.maxValue.toInt then some (m - n) else none

-- No number is divided by zero, and the least one by minus one is too large for a word.
def canDivide (m n : Int64) : Bool := n ≠ 0 && !(m = Int64.minValue && n = -1)

def remainder? (m n : Int64) : Option Int64 := if canDivide m n then some (m % n) else none

def quotient? (m n : Int64) : Option Int64 := if canDivide m n then some (m / n) else none

-- The quotient is only asked for where nothing remains.
def holdsInWords? (e : Nth) (n : Int32) : Option Bool :=
  if e.a = 0 then some (n = e.b)
  else do
    let gap ← minus? n.toInt64 e.b.toInt64
    let rest ← remainder? gap e.a.toInt64
    if rest = 0 then (quotient? gap e.a.toInt64).map fun count => decide (0 ≤ count)
    else some false

theorem range (n : Int32) : -2147483648 ≤ n.toInt ∧ n.toInt ≤ 2147483647 := ⟨n.le_toInt, n.toInt_le⟩

theorem minus_exact (m n : Int32) :
    ∃ gap, minus? m.toInt64 n.toInt64 = some gap ∧ gap.toInt = m.toInt - n.toInt := by
  have first := range m
  have second := range n
  refine ⟨m.toInt64 - n.toInt64, ?_, ?_⟩
  · have fits : Int64.minValue.toInt ≤ m.toInt - n.toInt ∧
        m.toInt - n.toInt ≤ Int64.maxValue.toInt := by
      simp only [Int64.toInt_minValue, Int64.toInt_maxValue]
      omega
    simp only [minus?, Int32.toInt_toInt64]
    exact if_pos fits
  · rw [Int64.toInt_sub, Int32.toInt_toInt64, Int32.toInt_toInt64]
    apply Int.bmod_eq_of_le <;> omega

theorem not_least (gap : Int64) (m n : Int32) (exact : gap.toInt = m.toInt - n.toInt) :
    gap ≠ Int64.minValue := by
  have first := range m
  have second := range n
  intro least
  rw [least, Int64.toInt_minValue] at exact
  omega

theorem widened_nonzero (a : Int32) (nonzero : a ≠ 0) : a.toInt64 ≠ 0 := by
  intro zero
  have exact := congrArg Int64.toInt zero
  rw [Int32.toInt_toInt64] at exact
  exact nonzero (Int32.toInt_inj.mp exact)

theorem holds_in_words (e : Nth) (n : Int32) : e.holdsInWords? n = some (e.holds n) := by
  by_cases zero : e.a = 0
  · simp [holdsInWords?, holds, zero]
  · obtain ⟨gap, taken, exact⟩ := minus_exact n e.b
    have least := not_least gap n e.b exact
    have divides : canDivide gap e.a.toInt64 := by
      simp [canDivide, least, widened_nonzero e.a zero]
    have rest : gap % e.a.toInt64 = 0 ↔ (n.toInt - e.b.toInt).tmod e.a.toInt = 0 := by
      rw [← Int64.toInt_inj, Int64.toInt_mod, Int32.toInt_toInt64, exact]
      rfl
    have count : 0 ≤ gap / e.a.toInt64 ↔ 0 ≤ (n.toInt - e.b.toInt).tdiv e.a.toInt := by
      rw [Int64.le_iff_toInt_le, Int64.toInt_div_of_ne_left _ _ least, Int32.toInt_toInt64, exact]
      rfl
    simp only [holdsInWords?, holds, if_neg zero, taken, remainder?, quotient?, if_pos divides,
      Option.bind_eq_bind, Option.bind_some, Option.map_some, count]
    by_cases whole : (n.toInt - e.b.toInt).tmod e.a.toInt = 0
    · simp [rest.mpr whole, whole]
    · simp [mt rest.mp whole, whole]

-- Division toward zero tells the multiples that are reached without going back.
theorem multiple_iff (a gap : Int) (nonzero : a ≠ 0) :
    gap.tmod a = 0 ∧ 0 ≤ gap.tdiv a ↔ ∃ k : Nat, gap = a * k := by
  constructor
  · rintro ⟨whole, forward⟩
    obtain ⟨k, count⟩ := Int.eq_ofNat_of_zero_le forward
    refine ⟨k, ?_⟩
    rw [← count, Int.mul_tdiv_cancel_of_tmod_eq_zero whole]
  · rintro ⟨k, rfl⟩
    rw [Int.mul_tdiv_cancel_left _ nonzero]
    exact ⟨Int.mul_tmod_right a k, Int.natCast_nonneg k⟩

theorem holds_iff_counted (e : Nth) (n : Int32) :
    (e.holds n ↔ ∃ k : Nat, n.toInt = e.a.toInt * k + e.b.toInt) ∧
      e.holdsInWords? n = some (e.holds n) := by
  refine ⟨?_, holds_in_words e n⟩
  by_cases zero : e.a = 0
  · have same : n = e.b ↔ n.toInt = e.b.toInt := Int32.toInt_inj.symm
    simp [holds, zero, same]
  · have nonzero : e.a.toInt ≠ 0 := fun same => zero (Int32.toInt_inj.mp same)
    have counted := multiple_iff e.a.toInt (n.toInt - e.b.toInt) nonzero
    simp only [Int.sub_eq_iff_eq_add] at counted
    simpa [holds, zero] using counted

end DomQuery.Selector.Nth
