import DomQuery.Proofs.Fields
import DomQuery.Proofs.Text.Trim
import DomQuery.Style.Declarations

set_option autoImplicit false

namespace DomQuery.Style

structure Solid (text : String) : Prop where
  filled : text ≠ ""
  trimmed : Text.trim text.toList = text.toList
  whole : ';' ∉ text.toList

-- The form in which declarations are read.
structure Clean (e : Field) : Prop where
  name : Solid e.1
  undivided : ':' ∉ e.1.toList
  value : Solid e.2

def Declarations.IsClean (d : Declarations) : Prop := ∀ e ∈ d.entries, Clean e

instance (text : String) : Decidable (Solid text) :=
  decidable_of_iff (text ≠ "" ∧ Text.trim text.toList = text.toList ∧ ';' ∉ text.toList)
    ⟨fun ⟨filled, trimmed, whole⟩ => ⟨filled, trimmed, whole⟩,
      fun solid => ⟨solid.filled, solid.trimmed, solid.whole⟩⟩

instance (e : Field) : Decidable (Clean e) :=
  decidable_of_iff (Solid e.1 ∧ ':' ∉ e.1.toList ∧ Solid e.2)
    ⟨fun ⟨name, undivided, value⟩ => ⟨name, undivided, value⟩,
      fun clean => ⟨clean.name, clean.undivided, clean.value⟩⟩

instance (d : Declarations) : Decidable d.IsClean :=
  inferInstanceAs (Decidable (∀ e ∈ d.entries, Clean e))

theorem split_first_iff (mark : Char) (cs left right : List Char) :
    splitFirst? mark cs = some (left, right) ↔ cs = left ++ mark :: right ∧ mark ∉ left := by
  induction cs generalizing left with
  | nil => simp [splitFirst?]
  | cons c cs ih =>
      by_cases here : c = mark
      · cases left with
        | nil => simp [splitFirst?, here]
        | cons d left => simp +contextual [splitFirst?, here]
      · cases left with
        | nil => simp [splitFirst?, here]
        | cons d left =>
            simp only [splitFirst?, if_neg here, Option.map_eq_some_iff, Prod.exists, Prod.mk.injEq,
              List.cons.injEq, List.cons_append, List.mem_cons, not_or]
            constructor
            · rintro ⟨front, back, split, ⟨rfl, rfl⟩, rfl⟩
              obtain ⟨rfl, free⟩ := (ih front).mp split
              exact ⟨⟨rfl, rfl⟩, Ne.symm here, free⟩
            · rintro ⟨⟨rfl, rfl⟩, _, free⟩
              exact ⟨left, right, (ih left).mpr ⟨rfl, free⟩, ⟨rfl, rfl⟩, rfl⟩

theorem segment_whole (mark : Char) (cs segment : List Char) (found : segment ∈ cs.splitOn mark) :
    mark ∉ segment := by
  induction cs generalizing segment with
  | nil =>
      rw [List.splitOn_nil, List.mem_singleton] at found
      simp [found]
  | cons c cs ih =>
      rw [List.splitOn_cons_eq_if_modifyHead] at found
      by_cases here : c = mark
      · rw [if_pos (beq_iff_eq.mpr here), List.mem_cons] at found
        rcases found with empty | later
        · simp [empty]
        · exact ih segment later
      · rw [if_neg (by simpa using here)] at found
        cases split : cs.splitOn mark with
        | nil => exact absurd split (List.splitOn_ne_nil mark cs)
        | cons first others =>
            rw [split] at ih found
            rcases List.mem_cons.mp found with front | later
            · rw [front, List.mem_cons, not_or]
              exact ⟨Ne.symm here, ih first List.mem_cons_self⟩
            · exact ih segment (List.mem_cons_of_mem first later)

theorem solid_of_trim (cs : List Char) (some : Text.trim cs ≠ []) (whole : ';' ∉ cs) :
    Solid (.ofList (Text.trim cs)) := by
  refine ⟨fun empty => some ?_, ?_, ?_⟩
  · simpa using congrArg String.toList empty
  · rw [String.toList_ofList, Text.trim_again]
  · rw [String.toList_ofList]
    exact fun member => whole ((Text.trim_sublist cs).subset member)

theorem declaration_clean (segment : List Char) (e : Field) (whole : ';' ∉ segment)
    (read : declaration? segment = some e) : Clean e := by
  obtain ⟨⟨left, right⟩, split, made⟩ := Option.bind_eq_some_iff.mp read
  obtain ⟨rfl, undivided⟩ := (split_first_iff ':' segment left right).mp split
  simp only [List.mem_append, List.mem_cons, not_or] at whole
  obtain ⟨wholeLeft, _, wholeRight⟩ := whole
  dsimp only at made
  by_cases blank : Text.trim left = [] || Text.trim right = []
  · rw [if_pos blank] at made
    cases made
  · rw [if_neg blank] at made
    rw [Bool.or_eq_true, decide_eq_true_eq, decide_eq_true_eq, not_or] at blank
    rw [← Option.some.inj made]
    refine ⟨solid_of_trim left blank.1 wholeLeft, ?_, solid_of_trim right blank.2 wholeRight⟩
    rw [String.toList_ofList]
    exact fun member => undivided ((Text.trim_sublist left).subset member)

namespace Declarations

theorem parse_clean (text : String) : (parse text).IsClean := by
  intro e member
  rcases Fields.mem_insert_all .empty _ e member with none | read
  · cases none
  · obtain ⟨segment, found, made⟩ := List.mem_filterMap.mp read
    exact declaration_clean segment e (segment_whole ';' _ segment found) made

end Declarations

theorem space_blank : ∀ c ∈ [' '], Text.isBlank c := List.forall_mem_singleton.mpr (by decide)

theorem declaration_written (lead : List Char) (e : Field) (clean : Clean e)
    (blank : ∀ c ∈ lead, Text.isBlank c) :
    declaration? (lead ++ (e.1.toList ++ [':', ' '] ++ e.2.toList)) = some e := by
  have unmarked : ':' ∉ lead ++ e.1.toList := by
    rw [List.mem_append, not_or]
    exact ⟨fun member => absurd (blank ':' member) (by decide), clean.undivided⟩
  have split : splitFirst? ':' (lead ++ (e.1.toList ++ [':', ' '] ++ e.2.toList)) =
      some (lead ++ e.1.toList, ' ' :: e.2.toList) := by
    refine (split_first_iff ':' _ _ _).mpr ⟨?_, unmarked⟩
    simp
  have name : Text.trim (lead ++ e.1.toList) = e.1.toList :=
    (Text.trim_lead lead e.1.toList blank).trans clean.name.trimmed
  have value : Text.trim (' ' :: e.2.toList) = e.2.toList :=
    (Text.trim_lead [' '] e.2.toList space_blank).trans clean.value.trimmed
  rw [declaration?, split]
  simp [name, value, clean.name.filled, clean.value.filled]

-- All declarations but the first have a space in front of them.
theorem written_behind (first : Field) (es : List Field) :
    [' '].intercalate ((first :: es).map Declarations.writeField) =
      Declarations.writeField first ++ es.flatMap fun e => ' ' :: Declarations.writeField e := by
  induction es generalizing first with
  | nil => simp
  | cons e es ih =>
      rw [List.map_cons, List.map_cons, List.intercalate_cons_cons, ← List.map_cons, ih e]
      simp

theorem segments_written (lead : List Char) (e : Field) (rest : List Char) (clean : Clean e)
    (blank : ∀ c ∈ lead, Text.isBlank c) :
    ((lead ++ (Declarations.writeField e ++ rest)).splitOn ';').filterMap declaration? =
      e :: (rest.splitOn ';').filterMap declaration? := by
  have whole : ';' ∉ lead ++ (e.1.toList ++ [':', ' '] ++ e.2.toList) := by
    have unmarked : ';' ∉ lead := fun member => absurd (blank ';' member) (by decide)
    simp [unmarked, clean.name.whole, clean.value.whole]
  have text : lead ++ (Declarations.writeField e ++ rest) =
      (lead ++ (e.1.toList ++ [':', ' '] ++ e.2.toList)) ++ ';' :: rest := by
    simp [Declarations.writeField]
  rw [text, List.splitOn_append_cons_self_of_not_mem whole,
    List.filterMap_cons_some (declaration_written lead e clean blank)]

theorem read_behind (es : List Field) (clean : ∀ e ∈ es, Clean e) :
    ((es.flatMap fun e => ' ' :: Declarations.writeField e).splitOn ';').filterMap declaration? =
      es := by
  induction es with
  | nil => rfl
  | cons e es ih =>
      have written := segments_written [' '] e
        (es.flatMap fun e => ' ' :: Declarations.writeField e) (clean e List.mem_cons_self)
        space_blank
      rw [ih fun other member => clean other (List.mem_cons_of_mem e member)] at written
      exact written

namespace Declarations

theorem parse_render (d : Declarations) (clean : d.IsClean) : parse d.render = d := by
  have read : (d.render.toList.splitOn ';').filterMap declaration? = d.entries := by
    rw [render, String.toList_ofList]
    unfold IsClean at clean
    cases split : d.entries with
    | nil => rfl
    | cons e es =>
        rw [split] at clean
        rw [written_behind e es, ← List.nil_append (writeField e ++ _),
          segments_written [] e _ (clean e List.mem_cons_self) nofun,
          read_behind es fun other member => clean other (List.mem_cons_of_mem e member)]
  rw [parse, read, Fields.of_list_entries]

theorem parse_render_iff (d : Declarations) : parse d.render = d ↔ d.IsClean := by
  refine ⟨fun back => ?_, parse_render d⟩
  rw [← back]
  exact parse_clean d.render

theorem styles_read_back :
    (∀ text, (parse text).IsClean) ∧
    (∀ d : Declarations, (parse d.render).entries = d.entries ↔ d.IsClean) ∧
    ∀ text, parse (parse text).render = parse text := by
  refine ⟨parse_clean, fun d => ?_, fun text => parse_render _ (parse_clean text)⟩
  rw [← parse_render_iff]
  exact ⟨Fields.ext, fun back => by rw [back]⟩

-- Without a clean form: an empty value, which JSON can bring in, a name with a colon, and a value
-- that ends with a blank are lost or changed on the way.
example :
    let odd : Declarations := ⟨[("a", ""), ("b:c", "1"), ("d", "2 ")], by decide⟩
    ¬odd.IsClean ∧ (parse odd.render).entries = [("b", "c: 1"), ("d", "2")] := by
  intro odd
  decide +kernel

end Declarations

end DomQuery.Style
