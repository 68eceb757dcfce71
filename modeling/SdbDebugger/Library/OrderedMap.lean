import Mathlib.Order.Lattice
import Mathlib.Tactic.Common

/-! Maps as lists in the order of their keys. An entry that is there already is not replaced. -/

structure OrderedMap (κ β : Type) [LinearOrder κ] where
  entries : List (κ × β)
  sorted : entries.Pairwise fun x y => x.1 < y.1

namespace OrderedMap

variable {κ β : Type} [LinearOrder κ]

def empty : OrderedMap κ β := ⟨[], .nil⟩

/-- The entries with one more, unless its key is taken. -/
def insertEntry (k : κ) (v : β) : List (κ × β) → List (κ × β)
  | [] => [(k, v)]
  | (x, u) :: rest =>
    if k < x then (k, v) :: (x, u) :: rest
    else if x < k then (x, u) :: insertEntry k v rest
    else (x, u) :: rest

theorem mem_insertEntry {k : κ} {v : β} {entry : κ × β} {l : List (κ × β)}
    (member : entry ∈ insertEntry k v l) : entry = (k, v) ∨ entry ∈ l := by
  induction l with
  | nil => exact .inl (List.mem_singleton.1 member)
  | cons head rest ih =>
    unfold insertEntry at member
    split_ifs at member
    · exact List.mem_cons.1 member
    · rcases List.mem_cons.1 member with rfl | tail
      · exact .inr List.mem_cons_self
      · exact (ih tail).imp_right (List.mem_cons_of_mem _)
    · exact .inr member

theorem sorted_insertEntry (k : κ) (v : β) {l : List (κ × β)}
    (sorted : l.Pairwise fun x y => x.1 < y.1) :
    (insertEntry k v l).Pairwise fun x y => x.1 < y.1 := by
  induction l with
  | nil => exact List.pairwise_singleton _ _
  | cons head rest ih =>
    obtain ⟨first, tail⟩ := List.pairwise_cons.1 sorted
    unfold insertEntry
    split_ifs with before after
    · refine List.pairwise_cons.2 ⟨fun entry member => ?_, sorted⟩
      rcases List.mem_cons.1 member with rfl | member
      · exact before
      · exact lt_trans before (first entry member)
    · refine List.pairwise_cons.2 ⟨fun entry member => ?_, ih tail⟩
      rcases mem_insertEntry member with rfl | member
      · exact after
      · exact first entry member
    · exact sorted

def insert (m : OrderedMap κ β) (k : κ) (v : β) : OrderedMap κ β :=
  ⟨insertEntry k v m.entries, sorted_insertEntry k v m.sorted⟩

def find? (m : OrderedMap κ β) (k : κ) : Option β := (m.entries.find? fun e => e.1 = k).map (·.2)

/-- The entries before a key, and those from it on. -/
def before (m : OrderedMap κ β) (k : κ) : List (κ × β) := m.entries.takeWhile fun e => e.1 < k

def onwards (m : OrderedMap κ β) (k : κ) : List (κ × β) := m.entries.dropWhile fun e => e.1 < k

/-! ### Lists in order -/

section Sorted

variable {l : List (κ × β)} {k x : κ} {u v : β}

theorem find?_above (above : ∀ e ∈ l, k < e.1) : l.find? (fun e => e.1 = k) = none := by
  refine List.find?_eq_none.2 fun e member => ?_
  rw [decide_eq_true_iff]
  exact (above e member).ne'

/-- What a list gives for a key, one entry at a time. -/
theorem find?_map_cons (e : κ × β) (l : List (κ × β)) :
    ((e :: l).find? fun e => e.1 = k).map (·.2) =
      if e.1 = k then some e.2 else (l.find? fun e => e.1 = k).map (·.2) := by
  by_cases here : e.1 = k <;> simp [here]

theorem find?_map_eq_some (sorted : l.Pairwise fun x y => x.1 < y.1) :
    (l.find? fun e => e.1 = k).map (·.2) = some v ↔ (k, v) ∈ l := by
  induction l with
  | nil => simp
  | cons head rest ih =>
    obtain ⟨first, tail⟩ := List.pairwise_cons.1 sorted
    rw [List.find?_cons, List.mem_cons]
    by_cases here : head.1 = k
    · have absent : (k, v) ∉ rest := fun member => ne_of_lt (first _ member) here
      rw [decide_eq_true here, or_iff_left absent, ← here]
      simp [Prod.ext_iff, eq_comm]
    · have other : (k, v) ≠ head := fun same => here (congrArg Prod.fst same).symm
      rw [decide_eq_false here, or_iff_right other]
      exact ih tail

theorem find?_insertEntry (sorted : l.Pairwise fun x y => x.1 < y.1) :
    ((insertEntry x u l).find? fun e => e.1 = k).map (·.2) =
      ((l.find? fun e => e.1 = k).map (·.2)).or (if x = k then some u else none) := by
  induction l with
  | nil => exact find?_map_cons (x, u) []
  | cons head rest ih =>
    obtain ⟨first, tail⟩ := List.pairwise_cons.1 sorted
    unfold insertEntry
    by_cases before : x < head.1
    · rw [if_pos before, find?_map_cons]
      by_cases same : x = k
      · have above : ∀ e ∈ head :: rest, k < e.1 :=
          same ▸ List.forall_mem_cons.2 ⟨before, fun e later => before.trans (first e later)⟩
        rw [if_pos same, if_pos same, find?_above above]
        rfl
      · rw [if_neg same, if_neg same, Option.or_none]
    · rw [if_neg before]
      by_cases after : head.1 < x
      · rw [if_pos after, find?_map_cons, find?_map_cons, ih tail]
        by_cases here : head.1 = k
        · rw [if_pos here, if_pos here]
          rfl
        · rw [if_neg here, if_neg here]
      · rw [if_neg after, find?_map_cons]
        have equal : head.1 = x := le_antisymm (not_lt.1 before) (not_lt.1 after)
        by_cases same : x = k
        · rw [if_pos (equal.trans same)]
          rfl
        · rw [if_neg same, Option.or_none]

theorem takeWhile_eq_filter (sorted : l.Pairwise fun x y => x.1 < y.1) :
    (l.takeWhile fun e => e.1 < k) = l.filter fun e => e.1 < k := by
  induction l with
  | nil => rfl
  | cons head rest ih =>
    obtain ⟨first, tail⟩ := List.pairwise_cons.1 sorted
    rw [List.takeWhile_cons, List.filter_cons, ih tail]
    by_cases below : head.1 < k
    · simp [below]
    · have none : rest.filter (fun e => e.1 < k) = [] := by
        refine List.filter_eq_nil_iff.2 fun e member => ?_
        rw [decide_eq_true_iff]
        exact fun less => below ((first e member).trans less)
      simp [below, none]

/-- Only the first entry that is not before a key can have it. -/
theorem dropWhile_head? (sorted : l.Pairwise fun x y => x.1 < y.1) :
    ((l.dropWhile fun e => e.1 < k).head?.filter fun e => e.1 = k) =
      l.find? fun e => e.1 = k := by
  induction l with
  | nil => rfl
  | cons head rest ih =>
    obtain ⟨first, tail⟩ := List.pairwise_cons.1 sorted
    rw [List.dropWhile_cons, List.find?_cons]
    by_cases below : head.1 < k
    · simp [below, below.ne, ih tail]
    · by_cases here : head.1 = k
      · simp [here]
      · have none := find?_above fun e member => (not_lt.1 below).trans_lt (first e member)
        simp [below, here, none]

/-- In order, the last one is the greatest. -/
theorem getLast?_eq_some (sorted : l.Pairwise fun x y => x.1 < y.1) {e : κ × β} :
    l.getLast? = some e ↔ e ∈ l ∧ ∀ y ∈ l, y.1 ≤ e.1 := by
  rcases List.eq_nil_or_concat l with rfl | ⟨init, last, rfl⟩
  · simp
  · rw [List.concat_eq_append] at sorted ⊢
    obtain ⟨_, _, below⟩ := List.pairwise_append.1 sorted
    rw [List.getLast?_concat, Option.some_inj]
    constructor
    · rintro rfl
      refine ⟨by simp, fun y member => ?_⟩
      rcases List.mem_append.1 member with early | late
      · exact (below y early last (by simp)).le
      · rw [List.mem_singleton.1 late]
    · rintro ⟨member, greatest⟩
      rcases List.mem_append.1 member with early | late
      · exact absurd (greatest last (by simp)) (not_le.2 (below e early last (by simp)))
      · exact (List.mem_singleton.1 late).symm

end Sorted

/-! ### Lookups -/

variable {m : OrderedMap κ β} {k x : κ} {u v : β}

theorem find?_eq_some : m.find? k = some v ↔ (k, v) ∈ m.entries := find?_map_eq_some m.sorted

theorem find?_empty : (empty : OrderedMap κ β).find? k = none := rfl

/-- A key that is there keeps its value, and no other key is touched. -/
theorem find?_insert : (m.insert x u).find? k =
    (m.find? k).or (if x = k then some u else none) := find?_insertEntry m.sorted

/-- The entries from a list, in its order; the first one of a key stays. -/
def insertAll (m : OrderedMap κ β) (items : List (κ × β)) : OrderedMap κ β :=
  items.foldl (fun m e => m.insert e.1 e.2) m

theorem find?_insertAll (items : List (κ × β)) : (m.insertAll items).find? k =
    (m.find? k).or ((items.find? fun e => e.1 = k).map (·.2)) := by
  induction items generalizing m with
  | nil => simp [insertAll]
  | cons item items ih =>
    rw [insertAll, List.foldl_cons]
    refine ih.trans ?_
    rw [find?_insert, Option.or_assoc, List.find?_cons]
    by_cases here : item.1 = k
    · simp [here]
    · simp [here]

theorem before_eq_filter : m.before k = m.entries.filter fun e => e.1 < k :=
  takeWhile_eq_filter m.sorted

theorem onwards_head? : ((m.onwards k).head?.filter fun e => e.1 = k) =
    (m.find? k).map fun v => (k, v) := by
  rw [onwards, dropWhile_head? m.sorted, find?, Option.map_map]
  cases found : m.entries.find? fun e => e.1 = k with
  | none => rfl
  | some e =>
    have same : e.1 = k := by simpa using List.find?_some found
    exact congrArg some (Prod.ext same rfl)

/-- The last entry before a key is the one of the greatest key below it. -/
theorem before_getLast? : (m.before k).getLast? = some (x, u) ↔
    m.find? x = some u ∧ x < k ∧ ∀ y w, m.find? y = some w → y < k → y ≤ x := by
  rw [before_eq_filter, getLast?_eq_some (m.sorted.filter _), List.mem_filter, decide_eq_true_iff,
    find?_eq_some, and_assoc]
  refine and_congr_right fun _ => and_congr_right fun _ => ?_
  constructor
  · intro greatest y w there below
    exact greatest (y, w) (List.mem_filter.2 ⟨find?_eq_some.1 there, decide_eq_true below⟩)
  · intro greatest y member
    obtain ⟨there, below⟩ := List.mem_filter.1 member
    exact greatest y.1 y.2 (find?_eq_some.2 there) (of_decide_eq_true below)

end OrderedMap
