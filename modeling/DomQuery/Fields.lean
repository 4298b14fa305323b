set_option autoImplicit false

namespace DomQuery

abbrev Field := String × String

namespace Field

-- A present name takes the new value where it stands; a new one goes to the end.
def put (name value : String) : List Field → List Field
  | [] => [(name, value)]
  | e :: es => if e.1 = name then (name, value) :: es else e :: put name value es

theorem names_put (name value : String) (es : List Field) :
    (put name value es).map Prod.fst =
      if name ∈ es.map Prod.fst then es.map Prod.fst else es.map Prod.fst ++ [name] := by
  induction es with
  | nil => simp [put]
  | cons e es ih =>
      by_cases same : e.1 = name
      · simp [put, same]
      · have other : name ≠ e.1 := fun eq => same eq.symm
        by_cases present : name ∈ es.map Prod.fst
        · simp [put, same, ih, List.map_cons, List.mem_cons, present]
        · simp [put, same, ih, List.map_cons, List.mem_cons, other, present]

theorem distinct_put (name value : String) (es : List Field) (distinct : (es.map Prod.fst).Nodup) :
    ((put name value es).map Prod.fst).Nodup := by
  rw [names_put]
  split
  · exact distinct
  · next absent =>
      refine List.nodup_append.mpr
        ⟨distinct, List.pairwise_singleton .., fun a member b last same => ?_⟩
      rw [List.mem_singleton.mp last] at same
      exact absent (same ▸ member)

theorem lookup_put (name other value : String) (es : List Field) :
    (put name value es).lookup other = if other = name then some value else es.lookup other := by
  induction es with
  | nil =>
      by_cases same : other = name
      · simp [put, same]
      · have missed : (other == name) = false := by simpa using same
        simp [put, List.lookup_cons, missed, same]
  | cons e es ih =>
      obtain ⟨key, old⟩ := e
      by_cases here : key = name
      · subst here
        by_cases same : other = key
        · simp [put, same]
        · have missed : (other == key) = false := by simpa using same
          simp [put, List.lookup_cons, missed, same]
      · by_cases same : other = key
        · subst same
          simp [put, here]
        · have missed : (other == key) = false := by simpa using same
          simp only [put, here, if_false, List.lookup_cons, missed]
          exact ih

def without (name : String) (es : List Field) : List Field := es.filter (·.1 ≠ name)

theorem lookup_without (name other : String) (es : List Field) :
    (without name es).lookup other = if other = name then none else es.lookup other := by
  induction es with
  | nil => simp [without]
  | cons e es ih =>
      obtain ⟨key, old⟩ := e
      unfold without at ih ⊢
      by_cases here : key = name
      · subst here
        by_cases same : other = key
        · simpa [same] using ih
        · have missed : (other == key) = false := by simpa using same
          simpa [List.lookup_cons, missed, same] using ih
      · by_cases same : other = key
        · subst same
          simp [here]
        · have missed : (other == key) = false := by simpa using same
          simpa [here, List.lookup_cons, missed] using ih

def takeOut (name : String) : List Field → Option String × List Field
  | [] => (none, [])
  | e :: es =>
      if e.1 = name then (some e.2, es)
      else
        let rest := takeOut name es
        (rest.1, e :: rest.2)

theorem take_out_value (name : String) (es : List Field) :
    (takeOut name es).1 = es.lookup name := by
  induction es with
  | nil => rfl
  | cons e es ih =>
      obtain ⟨key, value⟩ := e
      by_cases here : key = name
      · simp [takeOut, here]
      · have missed : (name == key) = false := by simpa using Ne.symm here
        simp only [takeOut, here, if_false, List.lookup_cons, missed]
        exact ih

theorem take_out_rest (name : String) (es : List Field) (distinct : (es.map Prod.fst).Nodup) :
    (takeOut name es).2 = without name es := by
  induction es with
  | nil => rfl
  | cons e es ih =>
      rw [List.map_cons, List.nodup_cons] at distinct
      obtain ⟨only, distinct⟩ := distinct
      unfold without at ih ⊢
      by_cases here : e.1 = name
      · have others : ∀ other ∈ es, decide (other.1 ≠ name) = true := by
          intro other member
          refine decide_eq_true fun same => only ?_
          rw [here, ← same]
          exact List.mem_map_of_mem member
        rw [takeOut, if_pos here, List.filter_cons_of_neg (by simp [here]),
          List.filter_eq_self.mpr others]
      · simp [takeOut, here, ih distinct]

theorem distinct_take_out (name : String) (es : List Field)
    (distinct : (es.map Prod.fst).Nodup) : ((takeOut name es).2.map Prod.fst).Nodup := by
  rw [take_out_rest name es distinct]
  exact distinct.sublist (List.filter_sublist.map Prod.fst)

end Field

structure Fields where
  entries : List Field
  distinct : (entries.map Prod.fst).Nodup

namespace Fields

def empty : Fields := ⟨[], by simp⟩

instance : Inhabited Fields := ⟨empty⟩

@[ext] theorem ext {a b : Fields} (same : a.entries = b.entries) : a = b := by
  cases a
  cases b
  simpa using same

def names (f : Fields) : List String := f.entries.map Prod.fst

def size (f : Fields) : Nat := f.entries.length

def isEmpty (f : Fields) : Bool := f.entries.isEmpty

def get? (f : Fields) (name : String) : Option String := f.entries.lookup name

def contains (f : Fields) (name : String) : Bool := (f.get? name).isSome

def insert (f : Fields) (name value : String) : Fields :=
  ⟨Field.put name value f.entries, Field.distinct_put name value f.entries f.distinct⟩

def erase (f : Fields) (name : String) : Fields where
  entries := Field.without name f.entries
  distinct := f.distinct.sublist (List.filter_sublist.map Prod.fst)

def takeOut (f : Fields) (name : String) : Option String × Fields :=
  let taken := Field.takeOut name f.entries
  (taken.1, ⟨taken.2, Field.distinct_take_out name f.entries f.distinct⟩)

def insertAll (f : Fields) (es : List Field) : Fields := es.foldl (fun f e => f.insert e.1 e.2) f

def ofList (es : List Field) : Fields := empty.insertAll es

def agrees (f g : Fields) : Bool :=
  f.size == g.size && f.entries.all fun e => g.get? e.1 == some e.2

theorem names_insert (f : Fields) (name value : String) :
    (f.insert name value).names = if name ∈ f.names then f.names else f.names ++ [name] :=
  Field.names_put name value f.entries

theorem get_insert (f : Fields) (name other value : String) :
    (f.insert name value).get? other = if other = name then some value else f.get? other :=
  Field.lookup_put name other value f.entries

theorem get_erase (f : Fields) (name other : String) :
    (f.erase name).get? other = if other = name then none else f.get? other :=
  Field.lookup_without name other f.entries

theorem take_out_eq (f : Fields) (name : String) : f.takeOut name = (f.get? name, f.erase name) :=
  Prod.ext (Field.take_out_value name f.entries)
    (ext (Field.take_out_rest name f.entries f.distinct))

end Fields

end DomQuery
