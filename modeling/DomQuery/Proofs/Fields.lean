import DomQuery.Fields
import Mathlib.Data.List.Induction

set_option autoImplicit false

namespace DomQuery

namespace Field

theorem mem_put (name value : String) (es : List Field) (e : Field) (member : e ∈ put name value es) :
    e = (name, value) ∨ e ∈ es := by
  induction es with
  | nil => exact Or.inl (List.mem_singleton.mp member)
  | cons first es ih =>
      rw [put] at member
      split at member
      · exact (List.mem_cons.mp member).imp_right (List.mem_cons_of_mem first)
      · rcases List.mem_cons.mp member with here | later
        · exact Or.inr (here ▸ List.mem_cons_self)
        · exact (ih later).imp_right (List.mem_cons_of_mem first)

theorem put_absent (name value : String) (es : List Field) (absent : name ∉ es.map Prod.fst) :
    put name value es = es ++ [(name, value)] := by
  induction es with
  | nil => rfl
  | cons e es ih =>
      rw [List.map_cons, List.mem_cons, not_or] at absent
      rw [put, if_neg (Ne.symm absent.1), ih absent.2, List.cons_append]

theorem put_present (name value : String) (es : List Field) (distinct : (es.map Prod.fst).Nodup)
    (present : name ∈ es.map Prod.fst) :
    put name value es = es.map fun e => if e.1 = name then (name, value) else e := by
  induction es with
  | nil => cases present
  | cons e es ih =>
      rw [List.map_cons, List.nodup_cons] at distinct
      by_cases here : e.1 = name
      · have elsewhere : ∀ other ∈ es, (if other.1 = name then (name, value) else other) = other := by
          intro other member
          refine if_neg fun same => distinct.1 ?_
          rw [here, ← same]
          exact List.mem_map_of_mem member
        rw [put, if_pos here, List.map_cons, if_pos here, List.map_congr_left elsewhere, List.map_id']
      · rw [List.map_cons, List.mem_cons] at present
        have later := present.resolve_left (Ne.symm here)
        rw [put, if_neg here, List.map_cons, if_neg here, ih distinct.2 later]

theorem put_put (name first second : String) (es : List Field) :
    put name second (put name first es) = put name second es := by
  induction es with
  | nil => simp [put]
  | cons e es ih =>
      by_cases here : e.1 = name
      · simp [put, here]
      · simp [put, here, ih]

def lay (es : List Field) (e : Field) : List Field :=
  if e.1 ∈ es.map Prod.fst then es.map fun other => if other.1 = e.1 then e else other
  else es ++ [e]

theorem mem_lay (es : List Field) (e : Field) : e ∈ lay es e := by
  rw [lay]
  split
  · next present =>
      obtain ⟨old, member, same⟩ := List.mem_map.mp present
      exact List.mem_map.mpr ⟨old, member, if_pos same⟩
  · exact List.mem_append_right es List.mem_cons_self

-- What stands already keeps its place, whatever is put under other names.
theorem put_comm (name other value text : String) (es : List Field) (apart : other ≠ name)
    (present : name ∈ es.map Prod.fst) :
    put other text (put name value es) = put name value (put other text es) := by
  induction es with
  | nil => cases present
  | cons e es ih =>
      by_cases here : e.1 = name
      · simp [put, here, apart.symm]
      · have later : name ∈ es.map Prod.fst := by
          rw [List.map_cons, List.mem_cons] at present
          exact present.resolve_left (Ne.symm here)
        by_cases there : e.1 = other
        · simp [put, there, apart]
        · simp [put, here, there, ih later]

end Field

namespace Fields

theorem insert_insert (f : Fields) (name first second : String) :
    (f.insert name first).insert name second = f.insert name second :=
  ext (Field.put_put name first second f.entries)

theorem mem_names_iff (f : Fields) (name : String) : name ∈ f.names ↔ f.contains name := by
  rw [contains, get?, List.lookup_isSome_iff, names, List.mem_map]
  simp only [beq_iff_eq, @eq_comm _ name]

theorem names_erase (f : Fields) (name : String) : (f.erase name).names = f.names.erase name := by
  have distinct : f.names.Nodup := f.distinct
  rw [distinct.erase_eq_filter, names, names, List.filter_map]
  refine congrArg (List.map Prod.fst) (List.filter_congr fun e _ => ?_)
  rw [decide_not, Function.comp_apply, bne, beq_eq_decide]

theorem mem_insert_all (f : Fields) (es : List Field) (e : Field)
    (member : e ∈ (f.insertAll es).entries) : e ∈ f.entries ∨ e ∈ es := by
  induction es generalizing f with
  | nil => exact Or.inl member
  | cons first es ih =>
      rcases ih (f.insert first.1 first.2) member with before | later
      · rcases Field.mem_put _ _ _ e before with here | old
        · exact Or.inr (here ▸ List.mem_cons_self)
        · exact Or.inl old
      · exact Or.inr (List.mem_cons_of_mem first later)

theorem insert_all_distinct (f : Fields) (es : List Field)
    (distinct : ((f.entries ++ es).map Prod.fst).Nodup) :
    (f.insertAll es).entries = f.entries ++ es := by
  induction es generalizing f with
  | nil => exact (List.append_nil f.entries).symm
  | cons e es ih =>
      have absent : e.1 ∉ f.entries.map Prod.fst := by
        intro present
        rw [List.map_append, List.nodup_append] at distinct
        exact distinct.2.2 e.1 present e.1 (by simp) rfl
      have put : (f.insert e.1 e.2).entries = f.entries ++ [e] :=
        Field.put_absent e.1 e.2 f.entries absent
      change ((f.insert e.1 e.2).insertAll es).entries = f.entries ++ e :: es
      rw [ih (f.insert e.1 e.2), put, List.append_assoc, List.singleton_append]
      rwa [put, List.append_assoc, List.singleton_append]

theorem of_list_entries (f : Fields) : ofList f.entries = f :=
  ext (insert_all_distinct empty f.entries f.distinct)

theorem entries_insert (f : Fields) (e : Field) :
    (f.insert e.1 e.2).entries = Field.lay f.entries e := by
  rw [Field.lay]
  by_cases present : e.1 ∈ f.entries.map Prod.fst
  · rw [if_pos present]
    exact Field.put_present e.1 e.2 f.entries f.distinct present
  · rw [if_neg present]
    exact Field.put_absent e.1 e.2 f.entries present

theorem entries_insert_all (f : Fields) (es : List Field) :
    (f.insertAll es).entries = es.foldl Field.lay f.entries := by
  induction es generalizing f with
  | nil => rfl
  | cons e es ih =>
      rw [List.foldl_cons, ← entries_insert]
      exact ih (f.insert e.1 e.2)

theorem insert_all_append (f : Fields) (es later : List Field) :
    f.insertAll (es ++ later) = (f.insertAll es).insertAll later :=
  List.foldl_append

theorem insert_insert_all (f : Fields) (name value : String) (es : List Field)
    (present : name ∈ f.names) (absent : name ∉ es.map Prod.fst) :
    (f.insert name value).insertAll es = (f.insertAll es).insert name value := by
  induction es generalizing f with
  | nil => rfl
  | cons e es ih =>
      rw [List.map_cons, List.mem_cons, not_or] at absent
      have kept : name ∈ (f.insert e.1 e.2).names := by
        rw [names_insert]
        split
        · exact present
        · exact List.mem_append_left _ present
      have swapped : (f.insert name value).insert e.1 e.2 = (f.insert e.1 e.2).insert name value :=
        ext (Field.put_comm name e.1 value e.2 f.entries (Ne.symm absent.1) present)
      change ((f.insert name value).insert e.1 e.2).insertAll es = _
      rw [swapped]
      exact ih (f.insert e.1 e.2) kept absent.2

theorem insert_all_put (f : Fields) (name value : String) (es : List Field)
    (distinct : (es.map Prod.fst).Nodup) :
    f.insertAll (Field.put name value es) = (f.insertAll es).insert name value := by
  induction es generalizing f with
  | nil => rfl
  | cons e es ih =>
      rw [List.map_cons, List.nodup_cons] at distinct
      rw [Field.put]
      by_cases here : e.1 = name
      · subst here
        have present : e.1 ∈ (f.insert e.1 e.2).names := by
          rw [names_insert]
          split
          · assumption
          · exact List.mem_append_right _ List.mem_cons_self
        have late := insert_insert_all (f.insert e.1 e.2) e.1 value es present distinct.1
        rw [insert_insert] at late
        rw [if_pos rfl]
        exact late
      · rw [if_neg here]
        exact ih (f.insert e.1 e.2) distinct.2

-- Of each name only the first place and the last value count.
theorem insert_all_of_list (f : Fields) (es : List Field) :
    f.insertAll (ofList es).entries = f.insertAll es := by
  induction es using List.reverseRecOn with
  | nil => rfl
  | append_singleton es e ih =>
      have last (g : Fields) : g.insertAll (es ++ [e]) = (g.insertAll es).insert e.1 e.2 :=
        g.insert_all_append es [e]
      rw [last, ← ih]
      exact (congrArg (fun g => f.insertAll (entries g)) (last empty)).trans
        (insert_all_put f e.1 e.2 _ (ofList es).distinct)

theorem names_of_list (es : List Field) : (ofList es).names = (es.map Prod.fst).eraseDups := by
  induction es using List.reverseRecOn with
  | nil => rfl
  | append_singleton es e ih =>
      have last : ofList (es ++ [e]) = (ofList es).insert e.1 e.2 := insert_all_append empty es [e]
      have known : e.1 ∈ (es.map Prod.fst).eraseDups ↔ e.1 ∈ es.map Prod.fst := List.mem_eraseDups
      rw [last, names_insert, ih, List.map_append, List.eraseDups_append]
      by_cases present : e.1 ∈ es.map Prod.fst
      · rw [if_pos (known.mpr present)]
        simp [List.removeAll, present]
      · rw [if_neg (known.not.mpr present)]
        simp [List.removeAll, present, List.eraseDups_cons]

theorem get_insert_all (f : Fields) (es : List Field) (name : String) :
    (f.insertAll es).get? name = (es.reverse.lookup name).or (f.get? name) := by
  induction es generalizing f with
  | nil => rfl
  | cons e es ih =>
      change ((f.insert e.1 e.2).insertAll es).get? name = _
      rw [ih, get_insert, List.reverse_cons, List.lookup_append, Option.or_assoc, List.lookup_cons,
        List.lookup_nil]
      by_cases same : name = e.1
      · simp [same]
      · have missed : (name == e.1) = false := by simpa using same
        rw [if_neg same, missed]
        rfl

theorem get_of_list (es : List Field) (name : String) :
    (ofList es).get? name = es.reverse.lookup name :=
  (get_insert_all empty es name).trans Option.or_none

end Fields

end DomQuery
