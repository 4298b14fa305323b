import DomQuery.Proofs.Style.Segment

set_option autoImplicit false

namespace DomQuery.Style

-- What a value declares behind its first semicolon.
def spilled (value : String) : List Field := (value.toList.splitOn ';').tail.filterMap declaration?

theorem split_behind (front cs : List Char) (whole : ';' ∉ front) :
    (front ++ cs).splitOn ';' = (cs.splitOn ';').modifyHead (front ++ ·) := by
  induction front with
  | nil => cases split : cs.splitOn ';' <;> simp [split]
  | cons c front ih =>
      rw [List.mem_cons, not_or] at whole
      rw [List.cons_append, List.splitOn_cons_eq_if_modifyHead, if_neg (by simpa using Ne.symm whole.1),
        ih whole.2]
      cases cs.splitOn ';' <;> rfl

theorem named_alike (lead value : List Char) (e o : Field) (name : Solid e.1)
    (undivided : ':' ∉ e.1.toList) (blank : ∀ c ∈ lead, Text.isBlank c)
    (read : declaration? (lead ++ (e.1.toList ++ ':' :: value)) = some o) : o.1 = e.1 := by
  have unmarked : ':' ∉ lead ++ e.1.toList := by
    rw [List.mem_append, not_or]
    exact ⟨fun member => absurd (blank ':' member) (by decide), undivided⟩
  have split : splitFirst? ':' (lead ++ (e.1.toList ++ ':' :: value)) = some (lead ++ e.1.toList, value) :=
    (split_first_iff ':' _ _ _).mpr ⟨(List.append_assoc ..).symm, unmarked⟩
  obtain ⟨_, _, parts, stripped, _⟩ := (declares_iff _ _ o).mp ((declaration_iff _ o).mp read)
  cases split.symm.trans parts
  have trimmed := (Text.trim_lead lead e.1.toList blank).trans name.trimmed
  exact String.toList_injective (stripped.symm.trans trimmed)

theorem declared_written (lead rest : List Char) (e : Field) (name : Solid e.1)
    (undivided : ':' ∉ e.1.toList) (blank : ∀ c ∈ lead, Text.isBlank c) :
    ∃ own, (∀ o ∈ own, o.1 = e.1) ∧
      declared (lead ++ (Declarations.writeField e ++ rest)) = own ++ (spilled e.2 ++ declared rest) := by
  let front := lead ++ (e.1.toList ++ [':', ' '])
  have whole : ';' ∉ front := by
    have unmarked : ';' ∉ lead := fun member => absurd (blank ';' member) (by decide)
    simp [front, unmarked, name.whole]
  have text : lead ++ (Declarations.writeField e ++ rest) = (front ++ e.2.toList) ++ ';' :: rest := by
    simp [front, Declarations.writeField]
  rw [text, declared_joined, declared, split_behind front e.2.toList whole, spilled]
  cases split : e.2.toList.splitOn ';' with
  | nil => exact absurd split (List.splitOn_ne_nil ';' _)
  | cons first others =>
      refine ⟨(declaration? (front ++ first)).toList, fun o member => ?_, ?_⟩
      · apply named_alike lead (' ' :: first) e o name undivided blank
        simpa [front] using member
      · cases read : declaration? (front ++ first) with
        | none => simp [read]
        | some o => simp [read]

section Lookup

variable (other : String)

-- Written among others, the declaration is read as what it is, as far as this name goes.
def KeepsName (e : Field) : Prop :=
  ∀ lead rest, (∀ c ∈ lead, Text.isBlank c) →
    (declared (lead ++ (Declarations.writeField e ++ rest))).reverse.lookup other =
      ((declared rest).reverse.lookup other).or ([e].lookup other)

theorem keeps_name_clean (e : Field) (clean : Clean e) : KeepsName other e := by
  intro lead rest blank
  have written : declared (lead ++ (Declarations.writeField e ++ rest)) = e :: declared rest :=
    segments_written lead e rest clean blank
  rw [written, List.reverse_cons, List.lookup_append]

theorem keeps_name_apart (e : Field) (solid : Solid e.1) (undivided : ':' ∉ e.1.toList)
    (apart : other ≠ e.1) (free : ∀ o ∈ spilled e.2, o.1 ≠ other) : KeepsName other e := by
  intro lead rest blank
  obtain ⟨own, named, written⟩ := declared_written lead rest e solid undivided blank
  have absent : (own ++ spilled e.2).reverse.lookup other = none := by
    apply List.lookup_eq_none_iff.mpr
    intro o member
    rw [List.mem_reverse, List.mem_append] at member
    rcases member with first | spill
    · simpa [named o first] using apart
    · simpa using Ne.symm (free o spill)
  have missed : [e].lookup other = none := by simp [apart]
  rw [written, ← List.append_assoc, List.reverse_append, List.lookup_append, absent, missed]

theorem lookup_behind (es : List Field) (keep : ∀ e ∈ es, KeepsName other e) :
    (declared (es.flatMap fun e => ' ' :: Declarations.writeField e)).reverse.lookup other =
      es.reverse.lookup other := by
  induction es with
  | nil => rfl
  | cons e es ih =>
      have later := ih fun o member => keep o (List.mem_cons_of_mem e member)
      have first := keep e List.mem_cons_self [' '] (es.flatMap fun e => ' ' :: Declarations.writeField e)
        space_blank
      rw [later] at first
      rw [List.reverse_cons, List.lookup_append]
      exact first

theorem lookup_rendered (d : Declarations) (keep : ∀ e ∈ d.entries, KeepsName other e) :
    (declared d.render.toList).reverse.lookup other = d.entries.reverse.lookup other := by
  rw [Declarations.render, String.toList_ofList]
  cases split : d.entries with
  | nil => rfl
  | cons e es =>
      rw [split] at keep
      have first := keep e List.mem_cons_self [] (es.flatMap fun e => ' ' :: Declarations.writeField e)
        (List.forall_mem_nil _)
      have later := lookup_behind other es fun o member => keep o (List.mem_cons_of_mem e member)
      rw [later, List.nil_append] at first
      rw [written_behind e es, List.reverse_cons, List.lookup_append]
      exact first

end Lookup

namespace Declarations

theorem get_set_other (d : Declarations) (name value other : String) (apart : other ≠ name) :
    (d.set name value).get? other = d.get? other := by
  rw [set]
  split
  · rw [Fields.get_erase, if_neg apart]
  · rw [Fields.get_insert, if_neg apart]

theorem mem_set (d : Declarations) (name value : String) (e : Field)
    (member : e ∈ (d.set name value).entries) : e = (name, value) ∨ e ∈ d.entries := by
  rw [set] at member
  split at member
  · exact Or.inr (List.mem_filter.mp member).1
  · exact Field.mem_put name value d.entries e member

theorem other_kept (d : Declarations) (name value other : String) (clean : d.IsClean)
    (solid : Solid name) (undivided : ':' ∉ name.toList) (apart : other ≠ name)
    (free : ∀ e ∈ spilled value, e.1 ≠ other) :
    (parse (d.set name value).render).get? other = d.get? other := by
  have keep : ∀ e ∈ (d.set name value).entries, KeepsName other e := by
    intro e member
    rcases mem_set d name value e member with rfl | old
    · exact keeps_name_apart other _ solid undivided apart free
    · exact keeps_name_clean other e (clean e old)
  rw [parse, Fields.get_of_list]
  calc
    (declared (d.set name value).render.toList).reverse.lookup other
      = (d.set name value).entries.reverse.lookup other := lookup_rendered other _ keep
    _ = (d.set name value).get? other := by rw [← Fields.get_of_list, Fields.of_list_entries]
    _ = d.get? other := get_set_other d name value other apart

theorem spilled_read (name value : String) (solid : Solid name) (undivided : ':' ∉ name.toList)
    (e : Field) (member : e ∈ spilled value) :
    (parse (set Fields.empty name value).render).get? e.1 ≠ none := by
  have some : ¬ value.isEmpty := by
    intro empty
    rw [String.isEmpty_iff.mp empty] at member
    cases member
  obtain ⟨own, _, written⟩ := declared_written [] [] (name, value) solid undivided nofun
  have rendered : (set Fields.empty name value).render.toList = writeField (name, value) := by
    rw [set, if_neg some, render, String.toList_ofList]
    simp [Fields.insert, Fields.empty, Field.put]
  have inside : e ∈ declared (set Fields.empty name value).render.toList := by
    rw [rendered, ← List.append_nil (writeField (name, value)), ← List.nil_append (_ ++ _), written]
    simp [member]
  rw [parse, Fields.get_of_list]
  intro none
  have other := List.lookup_eq_none_iff.mp none e (List.mem_reverse.mpr inside)
  simp at other

end Declarations

end DomQuery.Style
