import DomQuery.Proofs.Style.Segment

set_option autoImplicit false

namespace DomQuery.Style.Declarations

theorem parse_joined (s t : String) :
    parse (s ++ ";" ++ t) = (parse s).insertAll (parse t).entries := by
  have both : declared (s ++ ";" ++ t).toList = declared s.toList ++ declared t.toList := by
    rw [← declared_joined]
    simp
  change Fields.ofList (declared (s ++ ";" ++ t).toList) = _
  rw [both]
  calc
    Fields.ofList (declared s.toList ++ declared t.toList)
      = (parse s).insertAll (declared t.toList) := Fields.insert_all_append _ _ _
    _ = (parse s).insertAll (parse t).entries := (Fields.insert_all_of_list _ _).symm

theorem get_parse_iff (text name value : String) : (parse text).get? name = some value ↔
    ∃ before segment after, text.toList.splitOn ';' = before ++ segment :: after ∧
      Declares Text.isBlank segment (name, value) ∧
      ∀ other ∈ after, ∀ v, ¬ Declares Text.isBlank other (name, v) := by
  rw [← last_declared_iff, parse, Fields.get_of_list]

theorem parse_skips (s skipped t : String) (nothing : declared skipped.toList = []) :
    parse (s ++ ";" ++ skipped ++ ";" ++ t) = parse (s ++ ";" ++ t) := by
  have empty : (parse skipped).entries = [] := by
    change (Fields.ofList (declared skipped.toList)).entries = []
    rw [nothing]
    rfl
  rw [parse_joined (s ++ ";" ++ skipped) t, parse_joined s skipped, empty, parse_joined s t]
  rfl

theorem texts_overlay (s t : String) :
    (parse (s ++ ";" ++ t)).entries = (parse t).entries.foldl Field.lay (parse s).entries ∧
    (parse s).names = ((declared s.toList).map Prod.fst).eraseDups ∧
    (∀ name value, (parse s).get? name = some value ↔
      ∃ before segment after, s.toList.splitOn ';' = before ++ segment :: after ∧
        Declares Text.isBlank segment (name, value) ∧
        ∀ other ∈ after, ∀ v, ¬ Declares Text.isBlank other (name, v)) ∧
    ∀ skipped, declared skipped.toList = [] →
      parse (s ++ ";" ++ skipped ++ ";" ++ t) = parse (s ++ ";" ++ t) := by
  refine ⟨?_, Fields.names_of_list _, get_parse_iff s, fun skipped => parse_skips s skipped t⟩
  rw [parse_joined, Fields.entries_insert_all]

theorem later_margin_counts :
    let s := "margin: 1px; color : red"
    let t := "padding:0;margin:2px"
    declared "color: ".toList = [] ∧
      (parse (s ++ ";" ++ "color: " ++ ";" ++ t)).entries =
        [("margin", "2px"), ("color", "red"), ("padding", "0")] := by
  intro s t
  have nothing : declared "color: ".toList = [] := by decide +kernel
  obtain ⟨overlaid, _, _, skips⟩ := texts_overlay s t
  rw [skips "color: " nothing, overlaid]
  exact ⟨nothing, by decide +kernel⟩

end DomQuery.Style.Declarations
