import DomQuery.Proofs.Style.Segment

set_option autoImplicit false

namespace DomQuery.Style

def isOrdinaryBlank (c : Char) : Bool := [' ', '\t', '\n', '\r', '\x0c', '\x0b'].contains c

theorem ordinary_blank (c : Char) (ordinary : isOrdinaryBlank c) : Text.isBlank c := by
  simp only [isOrdinaryBlank, List.contains_eq_mem, decide_eq_true_eq, List.mem_cons,
    List.not_mem_nil, or_false] at ordinary
  obtain rfl | rfl | rfl | rfl | rfl | rfl := ordinary <;> decide

-- The segments from the first to the last: what one declares is laid over what those before it came to.
inductive Gathers (blank : Char → Bool) : List (List Char) → List Field → Prop where
  | start : Gathers blank [] []
  | passed (segments : List (List Char)) (segment : List Char) (es : List Field)
      (before : Gathers blank segments es) (nothing : ∀ e, ¬ Declares blank segment e) :
      Gathers blank (segments ++ [segment]) es
  | laid (segments : List (List Char)) (segment : List Char) (es : List Field) (e : Field)
      (before : Gathers blank segments es) (declares : Declares blank segment e) :
      Gathers blank (segments ++ [segment]) (Field.lay es e)

def Means (blank : Char → Bool) (text : List Char) (es : List Field) : Prop :=
  ∃ segments, segments ≠ [] ∧ (∀ segment ∈ segments, ';' ∉ segment) ∧
    [';'].intercalate segments = text ∧ Gathers blank segments es

theorem means_iff (blank : Char → Bool) (text : List Char) (es : List Field) :
    Means blank text es ↔ Gathers blank (text.splitOn ';') es := by
  constructor
  · intro meaning
    obtain ⟨segments, some, whole, joined, gathers⟩ := meaning
    rw [← joined, List.splitOn_intercalate ';' whole some]
    exact gathers
  · intro gathers
    exact ⟨_, List.splitOn_ne_nil ';' text, segment_whole ';' text, List.intercalate_splitOn ';', gathers⟩

section Gathering

variable (blank : Char → Bool)

theorem gathers_start_iff (es : List Field) : Gathers blank [] es ↔ [] = es := by
  constructor
  · intro gathers
    generalize none : ([] : List (List Char)) = all at gathers
    cases gathers with
    | start => rfl
    | passed | laid => simp at none
  · intro empty
    exact empty ▸ .start

theorem gathers_last_iff (segments : List (List Char)) (segment : List Char) (es : List Field) :
    Gathers blank (segments ++ [segment]) es ↔
      Gathers blank segments es ∧ (∀ e, ¬ Declares blank segment e) ∨
        ∃ before e, Gathers blank segments before ∧ Declares blank segment e ∧
          Field.lay before e = es := by
  constructor
  · intro gathers
    generalize split : segments ++ [segment] = all at gathers
    cases gathers with
    | start => simp at split
    | passed front last _ before nothing =>
        obtain ⟨rfl, same⟩ := List.append_inj' split rfl
        cases same
        exact Or.inl ⟨before, nothing⟩
    | laid front last old e before declares =>
        obtain ⟨rfl, same⟩ := List.append_inj' split rfl
        cases same
        exact Or.inr ⟨old, e, before, declares, rfl⟩
  · intro step
    rcases step with ⟨before, nothing⟩ | ⟨old, e, before, declares, rfl⟩
    · exact .passed segments segment es before nothing
    · exact .laid segments segment old e before declares

theorem gathers_something (segments : List (List Char)) : ∃ es, Gathers blank segments es := by
  induction segments using List.reverseRecOn with
  | nil => exact ⟨[], .start⟩
  | append_singleton segments segment ih =>
      obtain ⟨es, before⟩ := ih
      by_cases declares : ∃ e, Declares blank segment e
      · obtain ⟨e, declares⟩ := declares
        exact ⟨_, .laid segments segment es e before declares⟩
      · exact ⟨es, .passed segments segment es before (not_exists.mp declares)⟩

theorem gathers_congr (other : Char → Bool) (segments : List (List Char)) (es : List Field)
    (alike : ∀ segment ∈ segments, ∀ e, Declares blank segment e ↔ Declares other segment e) :
    Gathers blank segments es ↔ Gathers other segments es := by
  induction segments using List.reverseRecOn generalizing es with
  | nil => rw [gathers_start_iff, gathers_start_iff]
  | append_singleton segments segment ih =>
      have earlier (before : List Field) : Gathers blank segments before ↔ Gathers other segments before :=
        ih before fun s member => alike s (List.mem_append_left _ member)
      have last := alike segment (List.mem_append_right _ List.mem_cons_self)
      simp only [gathers_last_iff, last, earlier]

theorem declared_gathered (segments : List (List Char)) (segment : List Char) (es : List Field)
    (e : Field) (gathers : Gathers blank (segments ++ [segment]) es)
    (declares : Declares blank segment e) : e ∈ es := by
  rcases (gathers_last_iff blank segments segment es).mp gathers with ⟨_, nothing⟩ | ⟨_, _, _, own, rfl⟩
  · exact absurd declares (nothing e)
  · rw [declares.unique own]
    exact Field.mem_lay _ _

end Gathering

theorem gathers_iff (segments : List (List Char)) (es : List Field) :
    Gathers Text.isBlank segments es ↔
      (Fields.ofList (segments.filterMap declaration?)).entries = es := by
  induction segments using List.reverseRecOn generalizing es with
  | nil => exact gathers_start_iff _ es
  | append_singleton segments segment ih =>
      rw [gathers_last_iff, List.filterMap_append, ← declaration_none_iff]
      simp only [ih, ← declaration_iff]
      cases read : declaration? segment with
      | none => simp [read]
      | some e =>
          have last : (Fields.ofList (segments.filterMap declaration? ++ [e])).entries =
              Field.lay (Fields.ofList (segments.filterMap declaration?)).entries e := by
            rw [← Fields.entries_insert, Fields.ofList, Fields.insert_all_append]
            rfl
          simp [read, last]

theorem parse_means (text : String) (es : List Field) :
    Means Text.isBlank text.toList es ↔ (Declarations.parse text).entries = es := by
  rw [means_iff, gathers_iff]
  rfl

-- Neither the name nor the value has a blank of any kind at an end.
def Tight (e : Field) : Prop := Text.trim e.1.toList = e.1.toList ∧ Text.trim e.2.toList = e.2.toList

theorem stripped_tight (cs inner : List Char) (stripped : Text.Stripped isOrdinaryBlank cs inner)
    (tight : Text.trim inner = inner) : Text.Stripped Text.isBlank cs inner := by
  have ends := (Text.stripped_iff Text.isBlank inner inner).mpr tight
  obtain ⟨lead, trail, split, before, behind⟩ := stripped.around
  exact ⟨⟨lead, trail, split, fun c member => ordinary_blank c (before c member),
    fun c member => ordinary_blank c (behind c member)⟩, ends.first, ends.last⟩

theorem declares_tight (segment : List Char) (e : Field) (declares : Declares isOrdinaryBlank segment e)
    (tight : Tight e) : Declares Text.isBlank segment e := by
  cases declares with
  | sides left right _ undivided name value named valued =>
      exact .sides left right e undivided (stripped_tight left _ name tight.1)
        (stripped_tight right _ value tight.2) named valued

theorem strip_ordinary_some (cs : List Char) (some : Text.strip Text.isBlank cs ≠ []) :
    Text.strip isOrdinaryBlank cs ≠ [] := by
  intro none
  obtain ⟨lead, trail, split, before, behind⟩ := ((Text.stripped_iff isOrdinaryBlank cs []).mpr none).around
  apply some
  rw [split]
  exact Text.strip_around Text.isBlank lead [] trail (fun c member => ordinary_blank c (before c member))
    (fun c member => ordinary_blank c (behind c member)) nofun nofun

theorem declares_alike (segment : List Char)
    (tight : ∀ e, Declares isOrdinaryBlank segment e → Tight e) (e : Field) :
    Declares isOrdinaryBlank segment e ↔ Declares Text.isBlank segment e := by
  constructor
  · intro declares
    exact declares_tight segment e declares (tight e declares)
  · intro declares
    obtain ⟨left, right, split, name, value, named, valued⟩ := (declares_iff _ _ _).mp declares
    have someLeft : Text.strip isOrdinaryBlank left ≠ [] :=
      strip_ordinary_some left (by simpa [name] using named)
    have someRight : Text.strip isOrdinaryBlank right ≠ [] :=
      strip_ordinary_some right (by simpa [value] using valued)
    let own : Field := (.ofList (Text.strip isOrdinaryBlank left), .ofList (Text.strip isOrdinaryBlank right))
    have ordinary : Declares isOrdinaryBlank segment own := by
      apply (declares_iff _ _ _).mpr
      exact ⟨left, right, split, by simp [own], by simp [own], by simpa [own] using someLeft,
        by simpa [own] using someRight⟩
    have same := (declares_tight segment own ordinary (tight own ordinary)).unique declares
    exact same ▸ ordinary

namespace Declarations

-- A later declaration of the same name can hide what an earlier one was read as, so the text is taken up
-- to each of its semicolons.
theorem reading_follows_form (text : String) :
    (∀ es, Means Text.isBlank text.toList es ↔ (parse text).entries = es) ∧
    ((∀ front : String, front.toList.splitOn ';' <+: text.toList.splitOn ';' →
        ∀ es, Means isOrdinaryBlank front.toList es ↔ (parse front).entries = es) ↔
      ∀ segment ∈ text.toList.splitOn ';', ∀ e, Declares isOrdinaryBlank segment e → Tight e) := by
  refine ⟨parse_means text, ?_⟩
  constructor
  · intro agree segment member e declares
    obtain ⟨before, after, split⟩ := List.append_of_mem member
    let front : String := .ofList ([';'].intercalate (before ++ [segment]))
    have begins : before ++ [segment] <+: text.toList.splitOn ';' := ⟨after, by simp [split]⟩
    have parts : front.toList.splitOn ';' = before ++ [segment] := by
      rw [String.toList_ofList]
      apply List.splitOn_intercalate ';' _ (by simp)
      exact fun part inside => segment_whole ';' text.toList part (begins.subset inside)
    obtain ⟨es, gathers⟩ := gathers_something isOrdinaryBlank (before ++ [segment])
    have read : (parse front).entries = es := by
      apply (agree front (parts ▸ begins) es).mp
      rw [means_iff, parts]
      exact gathers
    have clean : Clean e := by
      apply parse_clean front e
      rw [read]
      exact declared_gathered isOrdinaryBlank before segment es e gathers declares
    exact ⟨clean.name.trimmed, clean.value.trimmed⟩
  · intro tight front begins es
    rw [← parse_means, means_iff, means_iff]
    apply gathers_congr
    intro segment member
    exact declares_alike segment (tight segment (begins.subset member))

theorem no_break_space_dropped :
    (parse "a:\u00a0").entries = [] ∧ Means isOrdinaryBlank "a:\u00a0".toList [("a", "\u00a0")] ∧
      ¬ Means isOrdinaryBlank "a:\u00a0".toList [] := by
  have declares : Declares isOrdinaryBlank ['a', ':', '\u00a0'] ("a", "\u00a0") := by
    apply (declares_iff _ _ _).mpr
    exact ⟨['a'], ['\u00a0'], rfl, by decide, by decide, by decide, by decide⟩
  have dropped : (parse "a:\u00a0").entries = [] := by decide +kernel
  rw [means_iff, means_iff]
  refine ⟨dropped, .laid [] _ [] _ .start declares, fun gathers => ?_⟩
  exact absurd (declared_gathered isOrdinaryBlank [] _ [] _ gathers declares) List.not_mem_nil

end Declarations

end DomQuery.Style
