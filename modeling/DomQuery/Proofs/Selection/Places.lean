import DomQuery.Proofs.Selection.Effect
import DomQuery.Selection.Members

set_option autoImplicit false

namespace DomQuery

namespace Selection

-- The place that an index stands for, in the row or not.
def meant (length : Nat) (index : Int) : Int := if index < 0 then length + index else index

-- The nearest of the places in the row and the one behind it.
def clamp (length : Nat) (index : Int) : Int :=
  if index < 0 then max 0 (length + index) else min index length

def between (s : Selection) (low high : Int) : List NodeId :=
  (s.nodes.zipIdx.filter fun e => low ≤ e.2 ∧ e.2 < high).map Prod.fst

-- A step has no answer where the exact one is no word of 64 bits.
def distance? (index : Int64) : Option UInt64 :=
  if index.toInt.natAbs < UInt64.size then
    some (if index < 0 then -index.toUInt64 else index.toUInt64)
  else none

def unsigned? (index : Int64) : Option UInt64 :=
  if 0 ≤ index.toInt then some index.toUInt64 else none

def less? (a b : UInt64) : Option UInt64 := if b.toNat ≤ a.toNat then some (a - b) else none

def placeInWords? (length : UInt64) (index : Int64) : Option (Option UInt64) :=
  if index < 0 then do
    let back ← distance? index
    if back ≤ length then (less? length back).map some else some none
  else (unsigned? index).map some

def boundInWords? (length : UInt64) (index : Int64) : Option UInt64 :=
  if index < 0 then do
    let back ← distance? index
    if back ≤ length then less? length back else some 0
  else (unsigned? index).map fun place => min place length

theorem word_of_index (index : Int64) : index.toInt =
    if 2 * index.toUInt64.toNat < UInt64.size then (index.toUInt64.toNat : Int)
    else index.toUInt64.toNat - UInt64.size :=
  BitVec.toInt_eq_toNat_cond index.toBitVec

theorem negative_iff (index : Int64) : index < 0 ↔ index.toInt < 0 := by
  rw [Int64.lt_iff_toInt_lt, Int64.toInt_zero]

-- The least index has no opposite among the signed words, but it has one among the others.
theorem distance_exact (index : Int64) (negative : index.toInt < 0) :
    ∃ back, distance? index = some back ∧ back.toNat = index.toInt.natAbs := by
  have least := index.le_toInt
  have word := word_of_index index
  have bound := index.toUInt64.toNat_lt
  rw [UInt64.size] at word
  have fits : index.toInt.natAbs < UInt64.size := by
    rw [UInt64.size]
    omega
  refine ⟨-index.toUInt64, ?_, ?_⟩
  · rw [distance?, if_pos fits, if_pos ((negative_iff index).mpr negative)]
  · rw [UInt64.toNat_neg, UInt64.size]
    split at word <;> omega

theorem unsigned_exact (index : Int64) (positive : 0 ≤ index.toInt) :
    ∃ place, unsigned? index = some place ∧ place.toNat = index.toInt.toNat := by
  have word := word_of_index index
  have bound := index.toUInt64.toNat_lt
  rw [UInt64.size] at word
  refine ⟨index.toUInt64, if_pos positive, ?_⟩
  split at word <;> omega

theorem less_exact (a b : UInt64) (inside : b ≤ a) :
    ∃ c, less? a b = some c ∧ c.toNat = a.toNat - b.toNat :=
  ⟨a - b, if_pos (UInt64.le_iff_toNat_le.mp inside), UInt64.toNat_sub_of_le a b inside⟩

section Words

variable (length : UInt64) (index : Int64)

theorem place_in_words : ∃ place, placeInWords? length index = some place ∧
    place.map UInt64.toNat = place? length.toNat index.toInt := by
  by_cases negative : index.toInt < 0
  · obtain ⟨back, taken, exact⟩ := distance_exact index negative
    rw [placeInWords?, if_pos ((negative_iff index).mpr negative), taken, place?,
      if_neg (Int.not_le.mpr negative), ← exact]
    by_cases inside : back ≤ length
    · obtain ⟨place, left, same⟩ := less_exact length back inside
      refine ⟨some place, ?_, ?_⟩
      · simp [inside, left]
      · rw [if_pos (UInt64.le_iff_toNat_le.mp inside), Option.map_some, same]
    · refine ⟨none, ?_, ?_⟩
      · simp [inside]
      · rw [if_neg (mt UInt64.le_iff_toNat_le.mpr inside), Option.map_none]
  · obtain ⟨place, taken, exact⟩ := unsigned_exact index (Int.not_lt.mp negative)
    refine ⟨some place, ?_, ?_⟩
    · rw [placeInWords?, if_neg (mt (negative_iff index).mp negative), taken, Option.map_some]
    · rw [place?, if_pos (Int.not_lt.mp negative), Option.map_some, exact]

theorem bound_in_words : ∃ place, boundInWords? length index = some place ∧
    place.toNat = bound length.toNat index.toInt := by
  by_cases negative : index.toInt < 0
  · obtain ⟨back, taken, exact⟩ := distance_exact index negative
    rw [boundInWords?, if_pos ((negative_iff index).mpr negative), taken, bound,
      if_neg (Int.not_le.mpr negative), ← exact]
    by_cases inside : back ≤ length
    · obtain ⟨place, left, same⟩ := less_exact length back inside
      exact ⟨place, by simp [inside, left], same⟩
    · have fewer := mt UInt64.le_iff_toNat_le.mpr inside
      refine ⟨0, by simp [inside], ?_⟩
      rw [UInt64.toNat_zero]
      omega
  · obtain ⟨place, taken, exact⟩ := unsigned_exact index (Int.not_lt.mp negative)
    refine ⟨min place length, ?_, ?_⟩
    · rw [boundInWords?, if_neg (mt (negative_iff index).mp negative), taken, Option.map_some]
    · rw [bound, if_pos (Int.not_lt.mp negative), UInt64.toNat_min, exact]

end Words

theorem bound_eq_clamp (length : Nat) (index : Int) :
    (bound length index : Int) = clamp length index := by
  rw [bound, clamp]
  by_cases negative : index < 0
  · rw [if_neg (Int.not_le.mpr negative), if_pos negative]
    omega
  · rw [if_pos (Int.not_lt.mp negative), if_neg negative]
    omega

theorem bound_le (length : Nat) (index : Int) : bound length index ≤ length := by
  rw [bound]
  split
  · exact Nat.min_le_right _ _
  · exact Nat.sub_le _ _

-- With places counted from `k` on, a first bound below `k` drops nothing, and a last one leaves
-- nothing to take.
theorem cut_eq_filter (low high : Nat) (ns : List NodeId) (k : Nat) :
    (ns.take (high - k)).drop (low - k) =
      ((ns.zipIdx k).filter fun e => (low : Int) ≤ e.2 ∧ (e.2 : Int) < high).map Prod.fst := by
  induction ns generalizing k with
  | nil => simp
  | cons n ns ih =>
      rw [List.zipIdx_cons]
      by_cases early : k < low
      · have later : low - k = low - (k + 1) + 1 := by omega
        have same : high - k - (low - (k + 1) + 1) = high - (k + 1) - (low - (k + 1)) := by omega
        rw [List.filter_cons_of_neg (by simp; omega), ← ih, List.drop_take, List.drop_take, later,
          List.drop_succ_cons, same]
      · have begun : low - k = 0 := Nat.sub_eq_zero_of_le (Nat.le_of_not_lt early)
        have going : low - (k + 1) = 0 := by omega
        by_cases inside : k < high
        · have further : high - k = high - (k + 1) + 1 := by omega
          rw [List.filter_cons_of_pos (by simp; omega), List.map_cons, ← ih, begun, going, further,
            List.take_succ_cons, List.drop_zero, List.drop_zero]
        · have ended : high - k = 0 := by omega
          have past : high - (k + 1) = 0 := by omega
          rw [List.filter_cons_of_neg (by simp; omega), ← ih, ended, past, List.take_zero,
            List.take_zero, List.drop_nil, List.drop_nil]

theorem yields_slice (s : Selection) (d : Document) (first : Int) (last : Option Int) :
    (s.slice first last).yields d = some (s.range first last) := rfl

theorem range_eq_between (s : Selection) (first last : Int) :
    s.range first (some last) = s.between (clamp s.size first) (clamp s.size last) := by
  rw [range, Option.map_some, Option.getD_some, between, ← bound_eq_clamp, ← bound_eq_clamp]
  exact cut_eq_filter (bound s.size first) (bound s.size last) s.nodes 0

theorem range_split (s : Selection) (index : Int) :
    s.range 0 (some index) ++ s.range index none = s.nodes := by
  have front : bound s.size 0 = 0 := Nat.zero_min s.size
  have whole : s.nodes.take s.size = s.nodes := List.take_length
  change (s.nodes.take (bound s.size index)).drop (bound s.size 0) ++
    (s.nodes.take s.size).drop (bound s.size index) = s.nodes
  rw [front, whole, List.drop_zero, List.take_append_drop]

theorem get_is_some_iff (s : Selection) (index : Int) :
    (s.get? index).isSome ↔ -(s.size : Int) ≤ index ∧ index < s.size := by
  rw [get?, place?]
  split
  · rw [Option.bind_some, isSome_getElem?, ← size]
    omega
  · split
    · rw [Option.bind_some, isSome_getElem?, ← size]
      omega
    · simp
      omega

theorem get_meant (s : Selection) (index : Int) (n : NodeId) (found : s.get? index = some n) :
    s.nodes[(meant s.size index).toNat]? = some n := by
  obtain ⟨p, place, there⟩ := Option.bind_eq_some_iff.mp found
  have same : p = (meant s.size index).toNat := by
    rw [place?] at place
    rw [meant]
    split at place
    · rw [if_neg (by omega), ← Option.some.inj place]
    · split at place
      · rw [if_pos (by omega), ← Option.some.inj place]
        omega
      · cases place
  rwa [same] at there

theorem run_index_of (s : Selection) (d : Document) (n : NodeId) (known : d.tree.has n) :
    (s.indexOf (.node n)).run d = .ok (s.nodes.idxOf? n) d := by
  have looked : s.indexOfNodes (.node n) d = .ok (s.nodes.idxOf? n) := by
    change (d.known [n] >>= fun wanted => .ok (wanted.head?.bind s.nodes.idxOf?)) = _
    rw [d.known_of_has [n] (by simpa using known)]
    rfl
  rw [indexOf, DocumentM.run_look, looked]

theorem index_of_get (s : Selection) (d : Document) (lists : d.tree.Lists s.nodes) (p : Nat)
    (inside : p < s.size) :
    ∃ n, s.get? p = some n ∧ (s.indexOf (.node n)).run d = .ok (some p) d := by
  have there : s.get? p = some (s.nodes.get ⟨p, inside⟩) := List.getElem?_eq_getElem inside
  have first : s.nodes.idxOf? (s.nodes.get ⟨p, inside⟩) = some p := by
    refine List.idxOf?_eq_some_iff.mpr ⟨inside, rfl, fun q before same => ?_⟩
    exact Nat.ne_of_lt before (lists.distinct.getElem_inj_iff.mp same)
  refine ⟨_, there, ?_⟩
  rw [s.run_index_of d _ (lists.known _ (List.get_mem _ _)), first]

theorem index_of_other (s : Selection) (d : Document) (n : NodeId) (known : d.tree.has n)
    (other : n ∉ s.nodes) : (s.indexOf (.node n)).run d = .ok none d := by
  rw [s.run_index_of d n known, List.idxOf?_eq_none_iff.mpr other]

theorem size_in_words (s : Selection) (distinct : s.nodes.Nodup) :
    (UInt64.ofNat s.size).toNat = s.size := by
  have few := Tree.length_le_bound UInt32.size s.nodes distinct fun n _ => n.word.toNat_lt
  refine UInt64.toNat_ofNat_of_lt' (Nat.lt_of_le_of_lt few ?_)
  decide

structure Indexed (s : Selection) (d : Document) (index : Int64) : Prop where
  present : (s.get? index.toInt).isSome ↔ -(s.size : Int) ≤ index.toInt ∧ index.toInt < s.size
  there : ∀ n, s.get? index.toInt = some n →
    s.nodes[(meant s.size index.toInt).toNat]? = some n
  sliced : ∀ last : Int64, (s.slice index.toInt (some last.toInt)).yields d =
    some (s.between (clamp s.size index.toInt) (clamp s.size last.toInt))
  split : ∃ front back, (s.slice 0 (some index.toInt)).yields d = some front ∧
    (s.slice index.toInt none).yields d = some back ∧ front ++ back = s.nodes

-- The words hold what the exact numbers are, and no range ends behind the row.
structure InWords (length : UInt64) (index : Int64) : Prop where
  place : ∃ place, placeInWords? length index = some place ∧
    place.map UInt64.toNat = place? length.toNat index.toInt
  bound : ∃ place, boundInWords? length index = some place ∧
    place.toNat = bound length.toNat index.toInt ∧ place ≤ length

theorem indexed (s : Selection) (d : Document) (index : Int64) : s.Indexed d index := by
  constructor
  case present => exact s.get_is_some_iff index.toInt
  case there => exact s.get_meant index.toInt
  case sliced =>
    intro last
    rw [yields_slice, range_eq_between]
  case split =>
    exact ⟨_, _, s.yields_slice d _ _, s.yields_slice d _ _, s.range_split index.toInt⟩

theorem in_words (length : UInt64) (index : Int64) : InWords length index := by
  constructor
  case place => exact place_in_words length index
  case bound =>
    obtain ⟨place, taken, exact⟩ := bound_in_words length index
    refine ⟨place, taken, exact, UInt64.le_iff_toNat_le.mpr ?_⟩
    rw [exact]
    exact bound_le _ _

end Selection

theorem places_hold_at_limits (d : Document) (s : Selection) :
    (∀ index : Int64, s.Indexed d index) ∧
    (∀ (length : UInt64) (index : Int64), Selection.InWords length index) ∧
    (d.tree.Lists s.nodes → (UInt64.ofNat s.size).toNat = s.size ∧
      (∀ p : Nat, p < s.size →
        ∃ n, s.get? p = some n ∧ (s.indexOf (.node n)).run d = .ok (some p) d) ∧
      ∀ n, d.tree.has n → n ∉ s.nodes → (s.indexOf (.node n)).run d = .ok none d) := by
  refine ⟨s.indexed d, Selection.in_words, fun lists => ⟨s.size_in_words lists.distinct, ?_, ?_⟩⟩
  · exact s.index_of_get d lists
  · exact s.index_of_other d

theorem least_index_bounds :
    let element (name : String) : Edit := .create (.element ⟨name, .empty⟩)
    let t := Tree.new.editAll [element "ul", element "li", .create (.text "and"), element "li",
      .append ⟨0⟩ ⟨1⟩, .append ⟨1⟩ ⟨2⟩, .append ⟨1⟩ ⟨3⟩, .append ⟨1⟩ ⟨4⟩]
    let d : Document := { id := 0, tree := t, reader := default }
    let s : Selection := ⟨0, 0, [⟨4⟩, ⟨1⟩, ⟨3⟩], []⟩
    d.tree.Lists s.nodes ∧ s.get? Int64.minValue.toInt = none ∧ s.get? (-3) = some ⟨4⟩ ∧
      (s.slice Int64.minValue.toInt (some (-1))).yields d = some [⟨4⟩, ⟨1⟩] ∧
      (∃ place, Selection.boundInWords? 3 Int64.minValue = some place ∧ place.toNat = 0) ∧
      (∃ n, s.get? 2 = some n ∧ (s.indexOf (.node n)).run d = .ok (some 2) d) ∧
      (s.indexOf (.node ⟨2⟩)).run d = .ok none d := by
  intro element t d s
  have known : ∀ n ∈ s.nodes, d.tree.has n := by decide +kernel
  have lists : d.tree.Lists s.nodes := ⟨by decide, known⟩
  obtain ⟨indexed, inWords, places⟩ := places_hold_at_limits d s
  obtain ⟨_, found, missed⟩ := places lists
  have absent : s.get? Int64.minValue.toInt = none := by
    rw [← Option.not_isSome_iff_eq_none, (indexed Int64.minValue).present]
    decide
  obtain ⟨place, taken, exact, _⟩ := (inWords 3 Int64.minValue).bound
  exact ⟨lists, absent, rfl, (indexed Int64.minValue).sliced (-1), ⟨place, taken, exact⟩,
    found 2 (by decide), missed ⟨2⟩ (by decide +kernel) (by decide)⟩

end DomQuery
