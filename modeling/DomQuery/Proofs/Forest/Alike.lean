import DomQuery.Proofs.Forest.Frame

set_option autoImplicit false

namespace DomQuery

theorem length_follow (step : NodeId → Option NodeId) (limit : Nat) (start : Option NodeId) :
    (follow step limit start).length ≤ limit := by
  induction limit generalizing start with
  | zero => exact Nat.le_refl 0
  | succ limit ih =>
      cases start with
      | none => exact Nat.zero_le _
      | some n => exact Nat.succ_le_succ (ih (step n))

theorem follow_alike (step next : NodeId → Option NodeId) (limit more : Nat) (start : Option NodeId)
    (walk : Visits step start (follow step limit start))
    (agree : ∀ n ∈ follow step limit start, next n = step n) (longer : limit ≤ more) :
    follow next more start = follow step limit start :=
  follow_visits next more start _ (segment_congr step next start none _ agree walk)
    (Nat.le_trans (length_follow step limit start) longer)

theorem all_alike {α : Type} (f g : α → Bool) (as : List α) (agree : ∀ a ∈ as, g a = f a) :
    as.all g = as.all f := by
  simpa using congrArg (List.all · id) (List.map_congr_left agree)

theorem any_alike {α : Type} (f g : α → Bool) (as : List α) (agree : ∀ a ∈ as, g a = f a) :
    as.any g = as.any f := by
  simpa using congrArg (List.any · id) (List.map_congr_left agree)

theorem find_some_alike {α β : Type} (f g : α → Option β) (as : List α)
    (agree : ∀ a ∈ as, g a = f a) : as.findSome? g = as.findSome? f := by
  simpa [List.findSome?_map] using congrArg (List.findSome? id) (List.map_congr_left agree)

-- Elements of one name that differ at most in attributes nobody looks at.
structure Element.Alike (seen : String → Prop) (e e' : Element) : Prop where
  name : e'.name = e.name
  attr : ∀ name, seen name → e'.attr? name = e.attr? name

theorem Element.Alike.hasAttr {seen : String → Prop} {e e' : Element} (alike : e.Alike seen e')
    (name : String) (visible : seen name) : e'.hasAttr name = e.hasAttr name :=
  congrArg Option.isSome (alike.attr name visible)

theorem Element.alike_of_unstyled (e e' : Element)
    (same : e'.removeAttr "style" = e.removeAttr "style") : e.Alike (· ≠ "style") e' := by
  have names : (e'.removeAttr "style").name = (e.removeAttr "style").name := by rw [same]
  refine ⟨names, fun name other => ?_⟩
  have values := congrArg (Element.attr? · name) same
  simp only [Element.attr?, Element.removeAttr, Fields.get_erase, if_neg other] at values
  exact values

theorem Payload.text_unstyled (p : Payload) : p.unstyled.text? = p.text? := by
  cases p <;> rfl

theorem Payload.element_unstyled (p : Payload) :
    p.unstyled.element? = p.element?.map (·.removeAttr "style") := by
  cases p <;> rfl

namespace Tree

structure Alike (seen : String → Prop) (t t' : Tree) : Prop where
  size : t.size ≤ t'.size
  links : ∀ n, t.has n → t'.links n = t.links n
  text : ∀ n, t.has n → t'.text? n = t.text? n
  element : ∀ n, t.has n → Option.Rel (Element.Alike seen) (t.element? n) (t'.element? n)

theorem index_of_known (t : Tree) (n : NodeId) (known : t.has n) : n.index < t.size := by
  simp only [has, Bool.and_eq_true, decide_eq_true_eq] at known
  exact known.2

namespace Keeps

variable {t u : Tree}

theorem alike {styled : List NodeId} (kept : t.Keeps u styled) : t.Alike (· ≠ "style") u := by
  have unstyled (n : NodeId) (known : t.has n) := kept.unstyled n (t.index_of_known n known)
  refine ⟨kept.size, fun n known => kept.links n (t.index_of_known n known), fun n known => ?_,
    fun n known => ?_⟩
  · have same := congrArg (Option.bind · Payload.text?) (unstyled n known)
    simp only [Option.bind_map, Function.comp_def, Payload.text_unstyled] at same
    exact same
  · have same := congrArg (Option.bind · Payload.element?) (unstyled n known)
    simp only [Option.bind_map, Function.comp_def, Payload.element_unstyled] at same
    have elements : (u.element? n).map (·.removeAttr "style") =
        (t.element? n).map (·.removeAttr "style") := by
      simpa [element?, Option.map_bind, Function.comp_def] using same
    cases before : t.element? n <;> cases now : u.element? n <;> simp [before, now] at elements
    · exact .none
    · exact .some (Element.alike_of_unstyled _ _ elements)

theorem alike_unstyled (kept : t.Keeps u []) : t.Alike (fun _ => True) u := by
  have payload (n : NodeId) (known : t.has n) : u.payload? n = t.payload? n :=
    kept.payload n (t.index_of_known n known) List.not_mem_nil
  refine ⟨kept.size, fun n known => kept.links n (t.index_of_known n known), fun n known => ?_,
    fun n known => ?_⟩
  · rw [text?, payload n known, text?]
  · rw [element?, element?, payload n known]
    cases (t.payload? n).bind (·.element?) with
    | none => exact .none
    | some e => exact .some ⟨rfl, fun _ _ => rfl⟩

end Keeps

namespace Alike

variable {seen : String → Prop} {t t' : Tree} (alike : t.Alike seen t') (n : NodeId)
  (known : t.has n)

include alike known

theorem parent : t'.parent n = t.parent n := congrArg Links.parent (alike.links n known)

theorem first_child : t'.firstChild n = t.firstChild n :=
  congrArg Links.firstChild (alike.links n known)

theorem next_sibling : t'.nextSibling n = t.nextSibling n :=
  congrArg Links.nextSibling (alike.links n known)

theorem prev_sibling : t'.prevSibling n = t.prevSibling n :=
  congrArg Links.prevSibling (alike.links n known)

theorem map_element {β : Type} (f g : Element → β)
    (agree : ∀ e e', Element.Alike seen e e' → g e' = f e) :
    (t'.element? n).map g = (t.element? n).map f := by
  have related := alike.element n known
  generalize t.element? n = before at related ⊢
  generalize t'.element? n = now at related ⊢
  cases related with
  | none => rfl
  | some same => exact congrArg some (agree _ _ same)

theorem any_element (f g : Element → Bool) (agree : ∀ e e', Element.Alike seen e e' → g e' = f e) :
    (t'.element? n).any g = (t.element? n).any f := by
  simpa [Option.any_map] using congrArg (Option.any id) (alike.map_element n known f g agree)

theorem tag_name : t'.tagName? n = t.tagName? n :=
  alike.map_element n known _ _ fun _ _ same => same.name

theorem is_element : t'.isElement n = t.isElement n := by
  simpa [tagName?, isElement] using congrArg Option.isSome (alike.tag_name n known)

variable (formed : t.WellFormed)

include formed

theorem ancestors : t'.ancestors n = t.ancestors n := by
  rw [Tree.ancestors, alike.parent n known]
  exact follow_alike _ _ _ _ _ (formed.visits_ancestors n)
    (fun a above => alike.parent a (formed.has_ancestor a n above)) alike.size

theorem children : t'.children n = t.children n := by
  rw [Tree.children, alike.first_child n known]
  refine follow_alike _ _ _ _ _ (formed.row_children n).forward (fun c member => ?_) alike.size
  exact alike.next_sibling c (formed.has_child c n ((formed.mem_children n c).mp member))

theorem following_siblings : t'.followingSiblings n = t.followingSiblings n := by
  rw [Tree.followingSiblings, alike.next_sibling n known]
  exact follow_alike _ _ _ _ _ (formed.visits_following n)
    (fun m later => alike.next_sibling m (formed.has_following n m later)) alike.size

theorem preceding_siblings : t'.precedingSiblings n = t.precedingSiblings n := by
  rw [Tree.precedingSiblings, alike.prev_sibling n known]
  exact follow_alike _ _ _ _ _ (formed.visits_preceding n)
    (fun m before => alike.prev_sibling m (formed.has_preceding n m before)) alike.size

theorem after (root : NodeId) : t'.after root n = t.after root n := by
  rw [Tree.after, Tree.after, alike.ancestors n known formed]
  refine find_some_alike _ _ _ fun m met => alike.next_sibling m ?_
  rcases List.mem_cons.mp (List.takeWhile_subset _ met) with here | above
  · rwa [here]
  · exact formed.has_ancestor m n above

theorem descendants : t'.descendants n = t.descendants n := by
  rw [Tree.descendants, alike.first_child n known]
  refine follow_alike _ _ _ _ _ (formed.visits_descendants n) (fun m below => ?_) alike.size
  have inside := formed.has_descendant n m below
  rw [successor, alike.first_child m inside, alike.after m inside formed, successor]

theorem contains (above : NodeId) : t'.contains above n = t.contains above n := by
  rw [Tree.contains, alike.ancestors n known formed, Tree.contains]

theorem element_children : t'.elementChildren n = t.elementChildren n := by
  rw [elementChildren, alike.children n known formed]
  exact List.filter_congr fun c member =>
    alike.is_element c (formed.has_child c n ((formed.mem_children n c).mp member))

theorem text_content : t'.textContent n = t.textContent n := by
  have texts : (t.descendants n).filterMap t'.text? = (t.descendants n).filterMap t.text? :=
    List.filterMap_congr fun m below =>
      alike.text m (formed.has_descendant n m below)
  rw [textContent, alike.text n known, alike.descendants n known formed, texts, textContent]

end Alike

end Tree

end DomQuery
