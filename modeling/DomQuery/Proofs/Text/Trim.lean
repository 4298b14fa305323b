import DomQuery.Text.Basic
import Mathlib.Data.List.DropRight

set_option autoImplicit false

namespace DomQuery.Text

theorem trim_end_begins (cs : List Char) : trimEnd cs <+: cs := by
  have back : cs.reverse.dropWhile isBlank <:+ cs.reverse := List.dropWhile_suffix _
  simpa [trimEnd] using List.reverse_prefix.mpr back

theorem trim_sublist (cs : List Char) : (trim cs).Sublist cs :=
  (trim_end_begins (trimStart cs)).sublist.trans (List.dropWhile_sublist isBlank)

theorem trim_lead (lead cs : List Char) (blank : ∀ c ∈ lead, isBlank c) :
    trim (lead ++ cs) = trim cs := by
  rw [trim, trimStart, List.dropWhile_append_of_pos blank, trim, trimStart]

theorem trim_end_again (cs : List Char) : trimEnd (trimEnd cs) = trimEnd cs := by
  rw [trimEnd, trimEnd, List.reverse_reverse, List.dropWhile_idempotent]

theorem head_of_trim_end (cs tail : List Char) (c : Char) (trimmed : trimEnd cs = c :: tail) :
    cs.head? = some c := by
  obtain ⟨rest, split⟩ := trim_end_begins cs
  rw [← split, trimmed]
  rfl

theorem trim_start_trim (cs : List Char) : trimStart (trim cs) = trim cs := by
  cases trimmed : trim cs with
  | nil => rfl
  | cons c tail =>
      have head := head_of_trim_end (trimStart cs) tail c trimmed
      have first := List.head?_dropWhile_not isBlank cs
      rw [show (cs.dropWhile isBlank).head? = some c from head] at first
      exact List.dropWhile_cons_of_neg (by simpa using first)

theorem trim_again (cs : List Char) : trim (trim cs) = trim cs := by
  rw [trim, trim_start_trim, trim, trim_end_again]

section Strip

variable (blank : Char → Bool)

-- What is left of a text when the blanks at both of its ends are gone.
structure Stripped (cs inner : List Char) : Prop where
  around : ∃ lead trail, cs = lead ++ (inner ++ trail) ∧ (∀ c ∈ lead, blank c) ∧ ∀ c ∈ trail, blank c
  first : ∀ c, inner.head? = some c → ¬ blank c
  last : ∀ c, inner.getLast? = some c → ¬ blank c

def strip (cs : List Char) : List Char := ((cs.dropWhile blank).reverse.dropWhile blank).reverse

theorem drop_solid (cs : List Char) (solid : ∀ c, cs.head? = some c → ¬ blank c) :
    cs.dropWhile blank = cs := by
  cases cs with
  | nil => rfl
  | cons c cs => exact List.dropWhile_cons_of_neg (solid c rfl)

theorem dropped_solid (cs : List Char) (c : Char) (head : (cs.dropWhile blank).head? = some c) :
    ¬ blank c := by
  have stopped := List.head?_dropWhile_not blank cs
  rw [head] at stopped
  simpa using stopped

theorem strip_around (lead inner trail : List Char) (before : ∀ c ∈ lead, blank c)
    (behind : ∀ c ∈ trail, blank c) (first : ∀ c, inner.head? = some c → ¬ blank c)
    (last : ∀ c, inner.getLast? = some c → ¬ blank c) :
    strip blank (lead ++ (inner ++ trail)) = inner := by
  have all (c : Char) (member : c ∈ trail.reverse) : blank c :=
    behind c (List.mem_reverse.mp member)
  have back : inner.reverse.dropWhile blank = inner.reverse := by
    apply drop_solid
    simpa using last
  rw [strip, List.dropWhile_append_of_pos before]
  cases inner with
  | nil =>
      have gone : trail.dropWhile blank = [] := List.dropWhile_eq_nil_iff.mpr behind
      simp [gone]
  | cons c inner =>
      have front : ((c :: inner) ++ trail).dropWhile blank = (c :: inner) ++ trail :=
        drop_solid blank _ first
      rw [front, List.reverse_append, List.dropWhile_append_of_pos all, back, List.reverse_reverse]

theorem stripped_strip (cs : List Char) : Stripped blank cs (strip blank cs) := by
  let body := cs.dropWhile blank
  have front : cs.takeWhile blank ++ body = cs := List.takeWhile_append_dropWhile
  have back : strip blank cs ++ (body.reverse.takeWhile blank).reverse = body := by
    rw [strip, ← List.reverse_append, List.takeWhile_append_dropWhile, List.reverse_reverse]
  constructor
  · refine ⟨cs.takeWhile blank, (body.reverse.takeWhile blank).reverse, ?_, ?_, ?_⟩
    · rw [back, front]
    · exact fun c member => List.mem_takeWhile_imp member
    · exact fun c member => List.mem_takeWhile_imp (List.mem_reverse.mp member)
  · intro c head
    apply dropped_solid blank cs c
    change body.head? = some c
    rw [← back, List.head?_append, head]
    rfl
  · intro c last
    rw [strip, List.getLast?_reverse] at last
    exact dropped_solid blank body.reverse c last

theorem stripped_iff (cs inner : List Char) : Stripped blank cs inner ↔ strip blank cs = inner := by
  constructor
  · intro stripped
    obtain ⟨lead, trail, split, before, behind⟩ := stripped.around
    rw [split]
    exact strip_around blank lead inner trail before behind stripped.first stripped.last
  · intro same
    exact same ▸ stripped_strip blank cs

end Strip

end DomQuery.Text
