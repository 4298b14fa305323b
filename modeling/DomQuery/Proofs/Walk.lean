import DomQuery.Tree.Walk
import Mathlib.Data.List.Nodup
import Mathlib.Data.List.Perm.Subperm
import Mathlib.Logic.Relation

set_option autoImplicit false

namespace DomQuery

variable (step next : NodeId → Option NodeId)

-- From `start` the step leads through these nodes, in this order, and then to `stop`.
def Segment : Option NodeId → List NodeId → Option NodeId → Prop
  | start, [], stop => start = stop
  | start, n :: ns, stop => start = some n ∧ Segment (step n) ns stop

abbrev Visits (start : Option NodeId) (ns : List NodeId) : Prop := Segment step start ns none

theorem segment_append (start stop : Option NodeId) (front back : List NodeId) :
    Segment step start (front ++ back) stop ↔
      ∃ seam, Segment step start front seam ∧ Segment step seam back stop := by
  induction front generalizing start with
  | nil => simp [Segment]
  | cons n ns ih => simp [Segment, ih, and_assoc]

theorem segment_congr (start stop : Option NodeId) (ns : List NodeId)
    (agree : ∀ n ∈ ns, next n = step n) (walk : Segment step start ns stop) :
    Segment next start ns stop := by
  induction ns generalizing start with
  | nil => exact walk
  | cons n ns ih =>
      refine ⟨walk.1, ?_⟩
      rw [agree n (by simp)]
      exact ih (step n) (fun m later => agree m (by simp [later])) walk.2

theorem visits_head (start : Option NodeId) (ns : List NodeId) (walk : Visits step start ns) :
    start = ns.head? := by
  cases ns with
  | nil => exact walk
  | cons n ns => exact walk.1

theorem visits_unique (start : Option NodeId) (ns ms : List NodeId) (walk : Visits step start ns)
    (other : Visits step start ms) : ns = ms := by
  induction ns generalizing start ms with
  | nil =>
      cases ms with
      | nil => rfl
      | cons m ms => cases walk.symm.trans other.1
  | cons n ns ih =>
      cases ms with
      | nil => cases walk.1.symm.trans other
      | cons m ms =>
          have same : n = m := Option.some.inj (walk.1.symm.trans other.1)
          subst same
          rw [ih (step n) ms walk.2 other.2]

theorem visits_iff (start : Option NodeId) (ns ms : List NodeId) (walk : Visits step start ns) :
    Visits step start ms ↔ ms = ns := by
  constructor
  · intro other
    exact visits_unique step start ms ns other walk
  · intro same
    rw [same]
    exact walk

theorem visits_behind (start : Option NodeId) (front back : List NodeId) (n : NodeId)
    (walk : Visits step start (front ++ n :: back)) : Visits step (step n) back := by
  obtain ⟨_, _, _, rest⟩ := (segment_append step start none front (n :: back)).mp walk
  exact rest

theorem visits_step (start : Option NodeId) (front back : List NodeId) (n : NodeId)
    (walk : Visits step start (front ++ n :: back)) : step n = back.head? :=
  visits_head step (step n) back (visits_behind step start front back n walk)

theorem visits_nodup (start : Option NodeId) (ns : List NodeId) (walk : Visits step start ns) :
    ns.Nodup := by
  induction ns generalizing start with
  | nil => exact List.nodup_nil
  | cons n ns ih =>
      refine List.nodup_cons.mpr ⟨fun again => ?_, ih (step n) walk.2⟩
      -- What follows the second visit would be what follows the first.
      obtain ⟨front, back, split⟩ := List.append_of_mem again
      rw [split] at walk
      have later := visits_behind step (step n) front back n walk.2
      have same := visits_unique step (step n) _ back walk.2 later
      have longer := congrArg List.length same
      simp only [List.length_append, List.length_cons] at longer
      omega

theorem follow_visits (limit : Nat) (start : Option NodeId) (ns : List NodeId)
    (walk : Visits step start ns) (bound : ns.length ≤ limit) : follow step limit start = ns := by
  induction limit generalizing start ns with
  | zero =>
      have empty : ns = [] := List.length_eq_zero_iff.mp (Nat.le_zero.mp bound)
      rw [empty]
      rfl
  | succ limit ih =>
      cases ns with
      | nil =>
          have ended : start = none := walk
          rw [ended]
          rfl
      | cons n ns =>
          rw [walk.1, follow, ih (step n) ns walk.2 (Nat.le_of_succ_le_succ bound)]

theorem visits_reached (n m : NodeId) (ns : List NodeId) (walk : Visits step (step n) ns) :
    m ∈ ns ↔ Relation.TransGen (fun a b => step a = some b) n m := by
  induction ns generalizing n with
  | nil =>
      refine ⟨fun none => by simp at none, fun chain => ?_⟩
      obtain ⟨b, first, _⟩ := Relation.TransGen.head'_iff.mp chain
      cases (show step n = none from walk).symm.trans first
  | cons k ns ih =>
      obtain ⟨first, rest⟩ := walk
      rw [Relation.TransGen.head'_iff]
      constructor
      · intro found
        refine ⟨k, first, ?_⟩
        rcases List.mem_cons.mp found with here | later
        · rw [here]
        · exact ((ih k rest).mp later).to_reflTransGen
      · rintro ⟨b, firstStep, chain⟩
        have same : k = b := Option.some.inj (first.symm.trans firstStep)
        subst same
        rcases Relation.reflTransGen_iff_eq_or_transGen.mp chain with here | later
        · rw [here]
          exact List.mem_cons_self
        · exact List.mem_cons_of_mem k ((ih k rest).mpr later)

theorem visits_irreflexive (n : NodeId) (ns : List NodeId) (walk : Visits step (step n) ns) :
    n ∉ ns := by
  have whole : Visits step (some n) (n :: ns) := ⟨rfl, walk⟩
  exact (List.nodup_cons.mp (visits_nodup step (some n) (n :: ns) whole)).1

-- A node leaves the middle of a walk: the step that led to it now leads past it.
theorem visits_skip (start : Option NodeId) (front back : List NodeId) (n : NodeId)
    (walk : Visits step start (front ++ n :: back))
    (past : ∀ m ∈ front ++ back, next m = if front.getLast? = some m then step n else step m) :
    Visits next (if front = [] then step n else start) (front ++ back) := by
  have distinct := visits_nodup step start _ walk
  induction front generalizing start with
  | nil =>
      refine segment_congr step next (step n) none back (fun m later => ?_) walk.2
      simpa using past m (by simpa using later)
  | cons k front ih =>
      have apart := (List.nodup_cons.mp distinct).1
      refine ⟨walk.1, ?_⟩
      have here : next k = if front = [] then step n else step k := by
        rw [past k (by simp)]
        cases front with
        | nil => simp
        | cons j front =>
            have lastElsewhere : (k :: j :: front).getLast? ≠ some k := by
              intro last
              have inside := List.mem_of_getLast? (l := j :: front) (by simpa using last)
              exact apart (List.mem_append_left _ inside)
            rw [if_neg lastElsewhere, if_neg (by simp)]
      rw [here]
      refine ih (step k) walk.2 (fun m found => ?_) (List.nodup_cons.mp distinct).2
      rw [past m (by simp at found ⊢; tauto)]
      cases front with
      | nil =>
          have other : k ≠ m := fun same => apart (by simp at found ⊢; rw [same]; tauto)
          simp [other]
      | cons j front => simp

theorem visits_extend (start : Option NodeId) (ns : List NodeId) (n : NodeId)
    (walk : Visits step start ns) (ends : next n = none)
    (onward : ∀ m ∈ ns, next m = if ns.getLast? = some m then some n else step m) :
    Visits next (if ns = [] then some n else start) (ns ++ [n]) := by
  have distinct := visits_nodup step start ns walk
  induction ns generalizing start with
  | nil => exact ⟨rfl, ends⟩
  | cons k ns ih =>
      have apart := (List.nodup_cons.mp distinct).1
      refine ⟨walk.1, ?_⟩
      have here : next k = if ns = [] then some n else step k := by
        rw [onward k (by simp)]
        cases ns with
        | nil => simp
        | cons j ns =>
            have lastElsewhere : (k :: j :: ns).getLast? ≠ some k := fun last =>
              apart (List.mem_of_getLast? (l := j :: ns) (by simpa using last))
            rw [if_neg lastElsewhere, if_neg (by simp)]
      rw [here]
      refine ih (step k) walk.2 (fun m found => ?_) (List.nodup_cons.mp distinct).2
      rw [onward m (by simp [found])]
      cases ns with
      | nil => simp at found
      | cons j ns => simp

end DomQuery
