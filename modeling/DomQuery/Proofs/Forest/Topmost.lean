import DomQuery.Proofs.Forest.Rows

set_option autoImplicit false

namespace DomQuery

theorem follow_met (step : NodeId → Option NodeId) (limit : Nat) (start : Option NodeId) (n : NodeId)
    (met : n ∈ follow step limit start) : start = some n ∨ ∃ m, step m = some n := by
  induction limit generalizing start with
  | zero => cases met
  | succ limit ih =>
      cases start with
      | none => cases met
      | some k =>
          rcases List.mem_cons.mp met with here | later
          · rw [here]
            exact Or.inl rfl
          · rcases ih (step k) later with next | further
            · exact Or.inr ⟨k, next⟩
            · exact Or.inr further

structure Links.Lone (l : Links) : Prop where
  parent : l.parent = none
  prevSibling : l.prevSibling = none
  nextSibling : l.nextSibling = none

-- None of the links leads to `r`, unless it is the one to the parent.
structure Links.Misses (l : Links) (r : NodeId) : Prop where
  firstChild : l.firstChild ≠ some r
  lastChild : l.lastChild ≠ some r
  prevSibling : l.prevSibling ≠ some r
  nextSibling : l.nextSibling ≠ some r

namespace Tree

-- `r` is a root, and nothing but its children knows of it.
structure Loose (t : Tree) (r : NodeId) : Prop where
  lone : (t.links r).Lone
  missed : ∀ n, (t.links n).Misses r

-- `r` is a root without neighbours, below no node and among the children of none.
structure OnTop (t : Tree) (r : NodeId) : Prop where
  parent : t.parent r = none
  prevSibling : t.prevSibling r = none
  nextSibling : t.nextSibling r = none
  root : t.rootOf r = r
  free : ∀ n, ¬t.contains n r
  unlisted : ∀ n, r ∉ t.children n

theorem parent_modify_links (t : Tree) (n m : NodeId) (f : Links → Links)
    (kept : ∀ l, (f l).parent = l.parent) : (t.modifyLinks n f).parent m = t.parent m := by
  rw [Tree.parent, Tree.parent]
  rcases t.links_modify_or n m f with same | ⟨_, changed⟩
  · rw [same]
  · rw [changed, kept]

namespace Loose

variable {t : Tree} {r : NodeId} (loose : t.Loose r)

include loose

theorem modify_links (n : NodeId) (f : Links → Links)
    (alone : n = r → (t.links n).Lone → (f (t.links n)).Lone)
    (steady : (t.links n).Misses r → (f (t.links n)).Misses r) : (t.modifyLinks n f).Loose r := by
  constructor
  case lone =>
    rcases t.links_modify_or n r f with same | ⟨rfl, changed⟩
    · rw [same]
      exact loose.lone
    · rw [changed]
      exact alone rfl loose.lone
  case missed =>
    intro m
    rcases t.links_modify_or n m f with same | ⟨rfl, changed⟩
    · rw [same]
      exact loose.missed m
    · rw [changed]
      exact steady (loose.missed m)

theorem bridge (beside parent : Option NodeId) (link cap : Links → Links) (other : beside ≠ some r)
    (alone : ∀ l : Links, l.Lone → (cap l).Lone)
    (steadyLink : ∀ l : Links, l.Misses r → (link l).Misses r)
    (steadyCap : ∀ l : Links, l.Misses r → (cap l).Misses r) :
    (t.bridge beside parent link cap).Loose r := by
  cases beside with
  | some n =>
      exact loose.modify_links n link (fun same => absurd (congrArg some same) other) (steadyLink _)
  | none =>
      cases parent with
      | some n => exact loose.modify_links n cap (fun _ => alone _) (steadyCap _)
      | none => exact loose

-- The neighbours of `n` come to know each other; neither of them is `r`.
theorem unlink (n : NodeId) : (t.unlink n).Loose r := by
  have own := loose.missed n
  refine bridge (loose.bridge _ _ _ _ own.prevSibling ?_ ?_ ?_) _ _ _ _ own.nextSibling ?_ ?_ ?_
  · exact fun l alone => ⟨alone.parent, alone.prevSibling, alone.nextSibling⟩
  · exact fun l missed => { missed with nextSibling := own.nextSibling }
  · exact fun l missed => { missed with firstChild := own.nextSibling }
  · exact fun l alone => ⟨alone.parent, alone.prevSibling, alone.nextSibling⟩
  · exact fun l missed => { missed with prevSibling := own.prevSibling }
  · exact fun l missed => { missed with lastChild := own.prevSibling }

theorem detach (n : NodeId) : (t.detach n).Loose r := by
  by_cases known : t.has n
  · rw [Tree.detach, if_pos known]
    refine (loose.unlink n).modify_links n _ (fun _ _ => ⟨rfl, rfl, rfl⟩) fun missed => ?_
    have away : none ≠ some r := (Option.some_ne_none r).symm
    exact { missed with prevSibling := away, nextSibling := away }
  · rw [Tree.detach, if_neg known]
    exact loose

theorem link_last (parent child : NodeId) (other : child ≠ r) : (t.linkLast parent child).Loose r := by
  have named : some child ≠ some r := fun same => other (Option.some.inj same)
  have lastOther : t.lastChild parent ≠ some r := (loose.missed parent).lastChild
  unfold linkLast
  refine modify_links ?_ parent _ (fun _ alone => ⟨alone.parent, alone.prevSibling,
    alone.nextSibling⟩) fun missed => { missed with lastChild := named }
  have placed : (t.modifyLinks child fun l =>
      { l with parent := some parent, prevSibling := t.lastChild parent, nextSibling := none }).Loose
        r := by
    refine loose.modify_links child _ (fun same => absurd same other) fun missed => ?_
    exact { missed with prevSibling := lastOther, nextSibling := (Option.some_ne_none r).symm }
  cases last : t.lastChild parent with
  | some k =>
      rw [last] at placed lastOther
      refine placed.modify_links k _ (fun same => absurd (congrArg some same) lastOther) fun missed => ?_
      exact { missed with nextSibling := named }
  | none =>
      rw [last] at placed
      refine placed.modify_links parent _ (fun _ alone => ⟨alone.parent, alone.prevSibling,
        alone.nextSibling⟩) fun missed => { missed with firstChild := named }

theorem edit (e : Edit) (spared : ∀ p, e = .append p r → ¬t.canAppend p r) : (t.edit e).Loose r := by
  cases e with
  | create payload =>
      constructor
      case lone =>
        rw [Tree.edit, links_push]
        exact loose.lone
      case missed =>
        intro n
        rw [Tree.edit, links_push]
        exact loose.missed n
  | append parent child =>
      by_cases fits : t.canAppend parent child
      · have other : child ≠ r := by
          rintro rfl
          exact spared parent rfl fits
        rw [Tree.edit, appendChild, if_pos fits]
        exact (loose.detach child).link_last parent child other
      · rw [Tree.edit, appendChild, if_neg fits]
        exact loose
  | detach n => exact loose.detach n

theorem edit_all (edits : List Edit) (spared : ∀ front p back, edits = front ++ .append p r :: back →
    ¬(t.editAll front).canAppend p r) : (t.editAll edits).Loose r := by
  induction edits generalizing t with
  | nil => exact loose
  | cons e edits ih =>
      have first := loose.edit e fun p same => spared [] p edits (by rw [same, List.nil_append])
      refine ih first fun front p back split => ?_
      exact spared (e :: front) p back (by rw [split, List.cons_append])

theorem on_top : t.OnTop r := by
  have above : t.ancestors r = [] := by
    rw [ancestors, show t.parent r = none from loose.lone.parent]
    cases t.size <;> rfl
  constructor
  case parent => exact loose.lone.parent
  case prevSibling => exact loose.lone.prevSibling
  case nextSibling => exact loose.lone.nextSibling
  case root =>
    rw [rootOf, above]
    rfl
  case free =>
    intro n
    simp [contains, above]
  case unlisted =>
    intro n member
    rcases follow_met _ _ _ _ member with first | ⟨m, next⟩
    · exact (loose.missed n).firstChild first
    · exact (loose.missed m).nextSibling next

end Loose

theorem parent_link_last (t : Tree) (parent child : NodeId) (inside : child.index < t.size) :
    (t.linkLast parent child).parent child = some parent := by
  have placed (last : Option NodeId) : (t.modifyLinks child fun l =>
      { l with parent := some parent, prevSibling := last, nextSibling := none }).parent child =
        some parent := by
    rw [Tree.parent, links_modify _ _ _ _ inside, if_pos rfl]
  unfold linkLast
  rw [parent_modify_links _ parent child (fun l => { l with lastChild := some child }) fun _ => rfl]
  cases t.lastChild parent with
  | some k =>
      rw [parent_modify_links _ k child (fun l => { l with nextSibling := some child }) fun _ => rfl]
      exact placed (some k)
  | none =>
      rw [parent_modify_links _ parent child (fun l => { l with firstChild := some child }) fun _ =>
        rfl]
      exact placed none

-- What is appended hangs below its new parent, whatever the links of the tree were before.
theorem parent_of_appended (t : Tree) (parent child : NodeId) (allowed : t.canAppend parent child) :
    (t.appendChild parent child).parent child = some parent := by
  obtain ⟨_, known, _⟩ := (can_append_iff t parent child).mp allowed
  rw [has, Bool.and_eq_true, decide_eq_true_eq] at known
  rw [appendChild, if_pos allowed]
  refine parent_link_last _ parent child ?_
  rw [size_detach]
  exact known.2

theorem loose_new : new.Loose .document := by
  constructor
  case lone =>
    rw [links_new]
    exact ⟨rfl, rfl, rfl⟩
  case missed =>
    intro n
    have away : none ≠ some NodeId.document := (Option.some_ne_none _).symm
    rw [links_new]
    exact ⟨away, away, away, away⟩

theorem has_document (edits : List Edit) : (new.editAll edits).has .document := by
  have grown := size_edit_all new edits
  rw [has, Bool.and_eq_true, decide_eq_true_eq]
  exact ⟨by decide, grown⟩

theorem document_on_top_iff (edits : List Edit) :
    (∀ k, (new.editAll (edits.take k)).payload? .document = some .document) ∧
      ((∀ k, (new.editAll (edits.take k)).OnTop .document) ↔
        ∀ front p back, edits = front ++ .append p .document :: back →
          let t := new.editAll front
          ¬t.has p ∨ p = .document ∨ t.contains .document p) := by
  have refused_iff (front : List Edit) (p : NodeId) :
      (¬(new.editAll front).has p ∨ p = .document ∨ (new.editAll front).contains .document p) ↔
        ¬(new.editAll front).canAppend p .document := by
    have known := has_document front
    rw [can_append_iff]
    tauto
  refine ⟨fun k => payload_edit_all new _ .document (by decide), fun top front p back split => ?_,
    fun spared k => ?_⟩
  · -- The tree after the edit in question is one that the run goes through.
    rw [refused_iff]
    intro allowed
    have reached : edits.take (front.length + 1) = front ++ [.append p .document] := by
      simp [split, List.take_append, List.take_of_length_le]
    have later := (top (front.length + 1)).parent
    rw [reached, editAll, List.foldl_append] at later
    cases later.symm.trans (parent_of_appended _ p .document allowed)
  · refine (loose_new.edit_all (edits.take k) fun front p back split => ?_).on_top
    rw [← refused_iff]
    refine spared front p (back ++ edits.drop k) ?_
    rw [← List.cons_append, ← List.append_assoc, ← split, List.take_append_drop]

-- The division is a root of its own, so it lies below nothing, and the document can go below it.
theorem document_below_division :
    let t := new.editAll [.create (.element ⟨"div", .empty⟩), .append ⟨1⟩ .document]
    t.payload? .document = some .document ∧ t.parent .document = some ⟨1⟩ ∧
      t.rootOf .document = ⟨1⟩ ∧ t.contains ⟨1⟩ .document ∧ t.children ⟨1⟩ = [.document] ∧
      ¬t.OnTop .document := by
  intro t
  have parent : t.parent .document = some ⟨1⟩ := by decide +kernel
  refine ⟨rfl, parent, by decide +kernel, by decide +kernel, by decide +kernel, fun top => ?_⟩
  cases parent.symm.trans top.parent

end Tree

end DomQuery
