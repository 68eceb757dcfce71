import Mathlib.Algebra.Order.BigOperators.Group.List
import Mathlib.Algebra.Order.Ring.Nat
import Mathlib.Logic.Function.Basic

/-! A heap of blocks and views into them. What a live block holds stays. A block that is not live
may come to hold anything, and a view into it may come to read as anything. -/

structure BlockHeap (α : Type) where
  live : List Nat
  contents : Nat → List α

namespace BlockHeap

variable {α : Type} {h h' h'' : BlockHeap α} {b : Nat} {values : List α}

structure View where
  block : Nat
  offset : Nat
  length : Nat
  deriving DecidableEq, Repr

def read (h : BlockHeap α) (v : View) : List α :=
  ((h.contents v.block).drop v.offset).take v.length

/-- The block is one that is not live. -/
def allocate (h : BlockHeap α) (block : Nat) (values : List α) : BlockHeap α :=
  ⟨block :: h.live, Function.update h.contents block values⟩

def release (h : BlockHeap α) (block : Nat) : BlockHeap α :=
  { h with live := h.live.filter fun b => b ≠ block }

/-- What may become of a heap while its blocks are live. -/
def Later (h h' : BlockHeap α) : Prop :=
  ∀ b ∈ h.live, b ∈ h'.live ∧ h'.contents b = h.contents b

theorem Later.refl (h : BlockHeap α) : Later h h := fun _ live => ⟨live, rfl⟩

theorem Later.trans (first : Later h h') (second : Later h' h'') : Later h h'' := by
  intro b live
  obtain ⟨live', same⟩ := first b live
  obtain ⟨live'', same'⟩ := second b live'
  exact ⟨live'', same'.trans same⟩

theorem later_allocate (fresh : b ∉ h.live) (values : List α) : Later h (h.allocate b values) := by
  intro c live
  have other : c ≠ b := fun same => fresh (same ▸ live)
  exact ⟨List.mem_cons_of_mem _ live, Function.update_of_ne other ..⟩

/-- A block that is allocated and released in between changes nothing that was live. -/
theorem Later.release (fresh : b ∉ h.live) (later : Later (h.allocate b values) h') :
    Later h (h'.release b) := by
  intro c live
  have other : c ≠ b := fun same => fresh (same ▸ live)
  obtain ⟨live', same⟩ := ((later_allocate fresh values).trans later) c live
  exact ⟨List.mem_filter.2 ⟨live', decide_eq_true other⟩, same⟩

theorem live_release_allocate (fresh : b ∉ h.live) :
    ((h.allocate b values).release b).live = h.live := by
  have kept : ∀ c ∈ h.live, decide (c ≠ b) = true := fun c live =>
    decide_eq_true fun same => fresh (same ▸ live)
  rw [BlockHeap.release, allocate, List.filter_cons_of_neg (by simp), List.filter_eq_self.2 kept]

/-- A view into a block that is not live need not read as before. -/
theorem exists_later_read_nil {v : View} (dangling : v.block ∉ h.live) :
    ∃ h', Later h h' ∧ h'.read v = [] := by
  refine ⟨{ h with contents := Function.update h.contents v.block [] }, fun c live => ?_, ?_⟩
  · have other : c ≠ v.block := fun same => dangling (same ▸ live)
    exact ⟨live, Function.update_of_ne other ..⟩
  · simp [read]

/-- A block that is not live. -/
def unused (h : BlockHeap α) : Nat := h.live.sum + 1

theorem unused_fresh (h : BlockHeap α) : h.unused ∉ h.live := fun live =>
  absurd (List.le_sum_of_mem live) (Nat.not_succ_le_self _)

end BlockHeap
