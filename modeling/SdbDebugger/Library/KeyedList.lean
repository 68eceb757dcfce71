import Mathlib.Data.List.Nodup
import Mathlib.Data.List.Perm.Basic
import Mathlib.Tactic.Common

/-! Lists searched from the front by a key. With distinct keys an element is
determined by its key, whatever updates, insertions and erasures came before. -/

namespace KeyedList

variable {α β : Type}

section Modify

theorem mem_modify {l : List α} {i : Nat} {f : α → α} {y : α} :
    y ∈ l.modify i f ↔ (∃ x, l[i]? = some x ∧ f x = y) ∨ ∃ j, j ≠ i ∧ l[j]? = some y := by
  rw [List.mem_iff_getElem?]
  constructor
  · rintro ⟨j, h⟩
    rw [List.getElem?_modify] at h
    by_cases here : i = j
    · subst here
      obtain ⟨x, hx, hy⟩ := Option.map_eq_some_iff.1 h
      exact .inl ⟨x, hx, by simpa using hy⟩
    · exact .inr ⟨j, Ne.symm here, by simpa [here] using h⟩
  · rintro (⟨x, hx, rfl⟩ | ⟨j, other, hy⟩)
    · exact ⟨i, by simp [hx]⟩
    · exact ⟨j, by simp [Ne.symm other, hy]⟩

theorem modify_congr {l : List α} {i : Nat} {f f' : α → α}
    (same : ∀ x, l[i]? = some x → f x = f' x) : l.modify i f = l.modify i f' := by
  apply List.ext_getElem?
  intro j
  rw [List.getElem?_modify, List.getElem?_modify]
  by_cases here : i = j
  · subst here
    cases at_i : l[i]? with
    | none => rfl
    | some x => simp [same x at_i]
  · simp [here]

theorem modify_of_fixed {l : List α} {i : Nat} {f : α → α} {a : α} (at_i : l[i]? = some a)
    (fixed : f a = a) : l.modify i f = l := by
  have same : ∀ x, l[i]? = some x → f x = id x := by
    intro x here
    cases at_i.symm.trans here
    exact fixed
  rw [modify_congr same, List.modify_id]

theorem map_modify {l : List α} {i : Nat} {f : α → α} {f' : β → β} {g : α → β}
    (follow : ∀ x, l[i]? = some x → g (f x) = f' (g x)) :
    (l.modify i f).map g = (l.map g).modify i f' := by
  apply List.ext_getElem?
  intro j
  rw [List.getElem?_map, List.getElem?_modify, List.getElem?_modify, List.getElem?_map]
  by_cases here : i = j
  · subst here
    cases at_i : l[i]? with
    | none => rfl
    | some x => simp [follow x at_i]
  · simp [here]

theorem map_modify_of_eq {l : List α} {i : Nat} {f : α → α} {g : α → β}
    (keep : ∀ x, g (f x) = g x) : (l.modify i f).map g = l.map g := by
  have follow : ∀ x, l[i]? = some x → g (f x) = id (g x) := fun x _ => keep x
  rw [map_modify follow, List.modify_id]

/-- The first position at which a test holds. -/
structure IsFirst (has : α → Bool) (l : List α) (i : Nat) : Prop where
  holds : ∃ x, l[i]? = some x ∧ has x = true
  before : ∀ j < i, ∀ x, l[j]? = some x → has x = false

theorem IsFirst.findIdx?_eq {has : α → Bool} {l : List α} {i : Nat} (first : IsFirst has l i) :
    l.findIdx? has = some i := by
  obtain ⟨x, at_i, found⟩ := first.holds
  obtain ⟨inside, rfl⟩ := List.getElem?_eq_some_iff.1 at_i
  refine List.findIdx?_eq_some_iff_getElem.2 ⟨inside, found, fun j before => ?_⟩
  have other := first.before j before _ (List.getElem?_eq_getElem (by omega))
  simp [other]

theorem isFirst_of_findIdx? {has : α → Bool} {l : List α} {i : Nat}
    (found : l.findIdx? has = some i) : IsFirst has l i := by
  obtain ⟨inside, holds, before⟩ := List.findIdx?_eq_some_iff_getElem.1 found
  refine ⟨⟨_, List.getElem?_eq_getElem inside, holds⟩, fun j less x at_j => ?_⟩
  obtain ⟨_, rfl⟩ := List.getElem?_eq_some_iff.1 at_j
  exact Bool.eq_false_iff.2 (before j less)

/-- What a list yields, with what one position yields in front. -/
theorem filterMap_perm {l : List α} {i : Nat} {x : α} (h : l[i]? = some x) (g : α → Option β) :
    (l.filterMap g).Perm ((g x).toList ++ (l.eraseIdx i).filterMap g) := by
  obtain ⟨inside, rfl⟩ := List.getElem?_eq_some_iff.1 h
  have front := (List.getElem_cons_eraseIdx_perm inside).symm.filterMap g
  cases yield : g l[i] with
  | none => simpa [yield] using front
  | some y => simpa [yield] using front

theorem filterMap_modify_perm {l : List α} {i : Nat} {x : α} (h : l[i]? = some x) (f : α → α)
    (g : α → Option β) :
    ((l.modify i f).filterMap g).Perm ((g (f x)).toList ++ (l.eraseIdx i).filterMap g) := by
  have here : (l.modify i f)[i]? = some (f x) := by simp [h]
  have front := filterMap_perm here g
  rwa [List.eraseIdx_modify_of_eq] at front

theorem filterMap_modify_gain {l : List α} {i : Nat} {x : α} {y : β} {f : α → α}
    {g : α → Option β} (h : l[i]? = some x) (before : g x = none) (after : g (f x) = some y) :
    ((l.modify i f).filterMap g).Perm (y :: l.filterMap g) := by
  have old := filterMap_perm h g
  have new := filterMap_modify_perm h f g
  rw [before] at old
  rw [after] at new
  exact new.trans (old.symm.cons y)

theorem filterMap_modify_loss {l : List α} {i : Nat} {x : α} {y : β} {f : α → α}
    {g : α → Option β} (h : l[i]? = some x) (before : g x = some y) (after : g (f x) = none) :
    (l.filterMap g).Perm (y :: (l.modify i f).filterMap g) := by
  have old := filterMap_perm h g
  have new := filterMap_modify_perm h f g
  rw [before] at old
  rw [after] at new
  exact old.trans (new.symm.cons y)

theorem filterMap_modify_same {l : List α} {i : Nat} {x : α} {f : α → α} {g : α → Option β}
    (h : l[i]? = some x) (same : g (f x) = g x) :
    ((l.modify i f).filterMap g).Perm (l.filterMap g) := by
  have new := filterMap_modify_perm h f g
  rw [same] at new
  exact new.trans (filterMap_perm h g).symm

end Modify

/-- No two elements share a key. -/
def DistinctKeys (key : α → β) (l : List α) : Prop := (l.map key).Nodup

namespace DistinctKeys

variable {key : α → β} {l : List α}

theorem nil : DistinctKeys key [] := List.nodup_nil

theorem position_unique (h : DistinctKeys key l) {i j : Nat} {x y : α}
    (hx : l[i]? = some x) (hy : l[j]? = some y) (same : key x = key y) : i = j := by
  have inside : i < (l.map key).length := by
    rw [List.length_map]
    exact (List.getElem?_eq_some_iff.1 hx).1
  have equal : (l.map key)[i]? = (l.map key)[j]? := by
    rw [List.getElem?_map, List.getElem?_map, hx, hy, Option.map_some, Option.map_some, same]
  exact (List.getElem?_inj inside h).1 equal

theorem eq_of_mem (h : DistinctKeys key l) {x y : α} (hx : x ∈ l) (hy : y ∈ l)
    (same : key x = key y) : x = y :=
  List.inj_on_of_nodup_map h hx hy same

theorem eraseIdx (h : DistinctKeys key l) (i : Nat) : DistinctKeys key (l.eraseIdx i) :=
  h.sublist ((List.eraseIdx_sublist l i).map _)

theorem append_singleton (h : DistinctKeys key l) {x : α} (fresh : ∀ y ∈ l, key y ≠ key x) :
    DistinctKeys key (l ++ [x]) := by
  unfold DistinctKeys
  rw [List.map_append, List.map_singleton, List.nodup_append]
  refine ⟨h, List.nodup_singleton _, ?_⟩
  intro a member b single equal
  rw [List.mem_singleton] at single
  obtain ⟨y, hy, rfl⟩ := List.mem_map.1 member
  exact fresh y hy (equal.trans single)

theorem modify (h : DistinctKeys key l) {i : Nat} {f : α → α} (keep : ∀ x, key (f x) = key x) :
    DistinctKeys key (l.modify i f) := by
  rw [DistinctKeys, map_modify_of_eq keep]
  exact h

/-- The first element found under a key is the only one. -/
theorem findIdx?_eq [BEq β] [LawfulBEq β] (h : DistinctKeys key l) {i : Nat} {x : α}
    (hx : l[i]? = some x) : l.findIdx? (fun y => key y == key x) = some i := by
  obtain ⟨inside, rfl⟩ := List.getElem?_eq_some_iff.1 hx
  refine List.findIdx?_eq_some_iff_getElem.2 ⟨inside, beq_self_eq_true _, fun j before same => ?_⟩
  have equal := h.position_unique (List.getElem?_eq_getElem (by omega)) hx (eq_of_beq same)
  omega

end DistinctKeys

theorem findIdx?_key [BEq β] [LawfulBEq β] {key : α → β} {l : List α} {k : β} {i : Nat}
    (h : l.findIdx? (fun y => key y == k) = some i) : ∃ x, l[i]? = some x ∧ key x = k := by
  obtain ⟨inside, found, _⟩ := List.findIdx?_eq_some_iff_getElem.1 h
  exact ⟨l[i], List.getElem?_eq_getElem inside, eq_of_beq found⟩

theorem isSome_findIdx?_key [BEq β] [LawfulBEq β] {key : α → β} {l : List α} {k : β} :
    (l.findIdx? fun y => key y == k).isSome = true ↔ ∃ x ∈ l, key x = k := by
  simp

end KeyedList
