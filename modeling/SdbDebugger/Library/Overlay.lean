import Mathlib.Data.Set.Insert
import Mathlib.Logic.Function.Basic

/-! A function seen through marks: on a set of marked points every value is
replaced by one fixed mark. Marking and clearing a point are single updates. -/

namespace Overlay

open Classical in
noncomputable def patch {ι β : Type} (marked : Set ι) (mark : β) (base : ι → β) : ι → β :=
  fun x => if x ∈ marked then mark else base x

variable {ι β : Type} {marked : Set ι} {mark : β} {base : ι → β}

theorem patch_of_mem {x : ι} (h : x ∈ marked) : patch marked mark base x = mark := if_pos h

theorem patch_of_not_mem {x : ι} (h : x ∉ marked) : patch marked mark base x = base x := if_neg h

/-- Marks are not seen over values that look like them. -/
theorem patch_eq_patch_iff {marked' : Set ι} {base' : ι → β} {x : ι} (same : base x = base' x) :
    patch marked mark base x = patch marked' mark base' x ↔
      (x ∈ marked ↔ x ∈ marked') ∨ base x = mark := by
  by_cases here : x ∈ marked
  · by_cases there : x ∈ marked'
    · simp [patch_of_mem here, patch_of_mem there, here, there]
    · rw [patch_of_mem here, patch_of_not_mem there, ← same]
      simp [here, there, eq_comm]
  · by_cases there : x ∈ marked'
    · rw [patch_of_not_mem here, patch_of_mem there]
      simp [here, there]
    · rw [patch_of_not_mem here, patch_of_not_mem there]
      simp [here, there, same]

@[simp] theorem patch_empty : patch ∅ mark base = base := by
  funext x
  exact patch_of_not_mem (Set.notMem_empty x)

theorem patch_insert [DecidableEq ι] (a : ι) :
    patch (insert a marked) mark base = Function.update (patch marked mark base) a mark := by
  funext x
  by_cases here : x = a
  · subst here
    rw [Function.update_self, patch_of_mem (Set.mem_insert x marked)]
  · rw [Function.update_of_ne here]
    by_cases h : x ∈ marked
    · rw [patch_of_mem h, patch_of_mem (Set.mem_insert_of_mem a h)]
    · rw [patch_of_not_mem h, patch_of_not_mem (by simp [here, h])]

theorem patch_diff_singleton [DecidableEq ι] (a : ι) :
    patch (marked \ {a}) mark base = Function.update (patch marked mark base) a (base a) := by
  funext x
  by_cases here : x = a
  · subst here
    rw [Function.update_self, patch_of_not_mem (by simp)]
  · rw [Function.update_of_ne here]
    by_cases h : x ∈ marked
    · rw [patch_of_mem h, patch_of_mem (show x ∈ marked \ {a} from ⟨h, here⟩)]
    · rw [patch_of_not_mem h, patch_of_not_mem (fun m => h m.1)]

end Overlay
