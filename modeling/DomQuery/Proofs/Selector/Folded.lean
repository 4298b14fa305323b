import DomQuery.Proofs.Text.Lowercase
import DomQuery.Selector.Semantics

set_option autoImplicit false

namespace DomQuery.Selector

-- A comparison that cuts the value at an end of the text that hangs on what stands beside it.
def AttrRelation.cutsSigma (op : AttrRelation) (expected : List Char) : Bool :=
  match op with
  | .startsWith => Text.opensRight expected
  | .endsWith => Text.opensLeft expected
  | .substring => Text.opensLeft expected || Text.opensRight expected
  | .equals | .notEquals | .includes | .dashMatch => false

section Comparisons

variable (expected value : List Char)

theorem equals_iff : AttrRelation.equals.compare expected value ↔ value = expected := by
  simp [AttrRelation.compare]

theorem includes_iff : AttrRelation.includes.compare expected value ↔
    expected ≠ [] ∧ expected ∈ Text.words value := by
  simp [AttrRelation.compare]

theorem dash_match_iff : AttrRelation.dashMatch.compare expected value ↔
    value = expected ∨ expected ++ ['-'] <+: value := by
  simp [AttrRelation.compare]

theorem starts_with_iff : AttrRelation.startsWith.compare expected value ↔
    expected ≠ [] ∧ expected <+: value := by
  simp [AttrRelation.compare]

theorem ends_with_iff : AttrRelation.endsWith.compare expected value ↔
    expected ≠ [] ∧ expected <:+ value := by
  simp [AttrRelation.compare]

theorem substring_iff : AttrRelation.substring.compare expected value ↔
    expected ≠ [] ∧ expected <:+: value := by
  simp [AttrRelation.compare, Text.occurs_in_iff]

end Comparisons

theorem hyphen_parts : Text.Parts '-' := by constructor <;> decide +kernel

theorem lower_dashed (expected value : List Char) (dashed : expected ++ ['-'] <+: value) :
    Text.lower expected ++ ['-'] <+: Text.lower value := by
  obtain ⟨rest, rfl⟩ := dashed
  rw [List.append_assoc, List.singleton_append, Text.lower_parted '-' hyphen_parts]
  exact ⟨Text.lower rest, by simp⟩

theorem compare_lower (op : AttrRelation) (other : op ≠ .notEquals) (expected value : List Char)
    (whole : op.cutsSigma expected = false) (found : op.compare expected value) :
    op.compare (Text.lower expected) (Text.lower value) := by
  have nonempty (some : expected ≠ []) : Text.lower expected ≠ [] :=
    (Text.lower_nil_iff expected).not.mpr some
  cases op with
  | equals =>
      rw [equals_iff] at found ⊢
      rw [found]
  | notEquals => contradiction
  | includes =>
      rw [includes_iff] at found ⊢
      rw [Text.words_lower]
      exact ⟨nonempty found.1, List.mem_map_of_mem found.2⟩
  | dashMatch =>
      rw [dash_match_iff] at found ⊢
      rcases found with same | dashed
      · exact .inl (congrArg Text.lower same)
      · exact .inr (lower_dashed expected value dashed)
  | startsWith =>
      rw [starts_with_iff] at found ⊢
      obtain ⟨some, after, rfl⟩ := found
      have closed : ¬ Text.opensRight expected := Bool.eq_false_iff.mp whole
      exact ⟨nonempty some, Text.lower_prefix expected after fun _ => closed⟩
  | endsWith =>
      rw [ends_with_iff] at found ⊢
      obtain ⟨some, before, rfl⟩ := found
      have closed : ¬ Text.opensLeft expected := Bool.eq_false_iff.mp whole
      exact ⟨nonempty some, Text.lower_suffix before expected fun _ => closed⟩
  | substring =>
      rw [substring_iff] at found ⊢
      obtain ⟨some, before, after, rfl⟩ := found
      obtain ⟨left, right⟩ := Bool.or_eq_false_iff.mp whole
      rw [List.append_assoc]
      exact ⟨nonempty some, Text.lower_infix before expected after
        (fun _ => Bool.eq_false_iff.mp left) (fun _ => Bool.eq_false_iff.mp right)⟩

-- A letter behind the open end takes the final sigma away, one in front of it makes a sigma final.
theorem compare_cut (op : AttrRelation) (expected : List Char) (cuts : op.cutsSigma expected) :
    ∃ value, op.compare expected value ∧ ¬ op.compare (Text.lower expected) (Text.lower value) := by
  have some : expected ≠ [] := by
    rintro rfl
    cases op <;> cases cuts
  have behind (opens : Text.opensRight expected) :
      ¬ Text.lower expected <:+: Text.lower (expected ++ ['a']) := fun part =>
    absurd (part.sublist.count_le 'ς') (Nat.not_le.mpr (Text.fewer_final expected opens))
  have before (opens : Text.opensLeft expected) :
      ¬ Text.lower expected <:+: Text.lower ('a' :: expected) := fun part =>
    absurd (part.sublist.count_le 'σ') (Nat.not_le.mpr (Text.fewer_inner expected opens))
  cases op with
  | startsWith =>
      refine ⟨expected ++ ['a'], (starts_with_iff _ _).mpr ⟨some, List.prefix_append _ _⟩, ?_⟩
      rw [starts_with_iff]
      exact fun lowered => behind cuts lowered.2.isInfix
  | endsWith =>
      refine ⟨'a' :: expected, (ends_with_iff _ _).mpr ⟨some, List.suffix_cons _ _⟩, ?_⟩
      rw [ends_with_iff]
      exact fun lowered => before cuts lowered.2.isInfix
  | substring =>
      simp only [substring_iff]
      rcases Bool.or_eq_true_iff.mp cuts with left | right
      · exact ⟨'a' :: expected, ⟨some, (List.suffix_cons _ _).isInfix⟩,
          fun lowered => before left lowered.2⟩
      · exact ⟨expected ++ ['a'], ⟨some, (List.prefix_append _ _).isInfix⟩,
          fun lowered => behind right lowered.2⟩
  | equals | notEquals | includes | dashMatch => cases cuts

theorem compare_lower_iff (op : AttrRelation) (other : op ≠ .notEquals) (expected : List Char) :
    (∀ value, op.compare expected value → op.compare (Text.lower expected) (Text.lower value)) ↔
      op.cutsSigma expected = false := by
  constructor
  · intro always
    by_contra cuts
    obtain ⟨value, found, lost⟩ := compare_cut op expected (by simpa using cuts)
    exact lost (always value found)
  · intro whole value found
    exact compare_lower op other expected value whole found

theorem compare_of_attr (name : String) (op : AttrRelation) (expected value : String) (ignoreCase : Bool)
    (e : Element) (carried : e.attr? name = some value) :
    (AttrTest.compare name op expected ignoreCase).holds e =
      if ignoreCase then op.compare (Text.lower expected.toList) (Text.lower value.toList)
      else op.compare expected.toList value.toList := by
  cases ignoreCase <;> simp [AttrTest.holds, carried]

theorem flag_widens_iff (name expected : String) (op : AttrRelation) (other : op ≠ .notEquals) :
    (∀ e : Element, (AttrTest.compare name op expected false).holds e →
      (AttrTest.compare name op expected true).holds e) ↔ op.cutsSigma expected.toList = false := by
  rw [← compare_lower_iff op other]
  constructor
  · intro always value found
    let e := ({ name := "p" } : Element).setAttr name (.ofList value)
    have carried : e.attr? name = some (.ofList value) := by rw [Element.attr_set_attr, if_pos rfl]
    have flagged := always e
    simp only [compare_of_attr name op expected _ _ _ carried, String.toList_ofList] at flagged
    exact flagged found
  · intro widens e found
    cases carried : e.attr? name with
    | none => simp [AttrTest.holds, carried, other] at found
    | some value =>
        rw [compare_of_attr name op expected value _ e carried] at found ⊢
        exact widens value.toList found

theorem leading_sigma_kept :
    let e := ({ name := "p" } : Element).setAttr "title" "ΣΟΦΙΑΣ"
    AttrRelation.startsWith ≠ .notEquals ∧ AttrRelation.startsWith.cutsSigma "ΣΟΦΙΑ".toList = false ∧
      (AttrTest.compare "title" .startsWith "ΣΟΦΙΑ" false).holds e ∧
      (AttrTest.compare "title" .startsWith "ΣΟΦΙΑ" true).holds e := by
  intro e
  have other : AttrRelation.startsWith ≠ .notEquals := nofun
  have whole : AttrRelation.startsWith.cutsSigma "ΣΟΦΙΑ".toList = false := by decide +kernel
  have found : (AttrTest.compare "title" .startsWith "ΣΟΦΙΑ" false).holds e := by decide +kernel
  have widens := (flag_widens_iff "title" "ΣΟΦΙΑ" .startsWith other).mpr whole
  exact ⟨other, whole, found, widens e found⟩

theorem final_sigma_lost :
    let e := ({ name := "p" } : Element).setAttr "title" "ΑΣΑ"
    (AttrTest.compare "title" .startsWith "ΑΣ" false).holds e ∧
      ¬ (AttrTest.compare "title" .startsWith "ΑΣ" true).holds e := by
  decide +kernel

end DomQuery.Selector
